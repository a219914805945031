import Mathlib.Data.List.DropRight
import Mathlib.Data.List.TakeWhile
import Mathlib.Tactic.Common

/-!
# Texts that are cut and trimmed

`cut` goes through a text up to the first element at which to stop, which may depend on the
element before it: `cut_eq_iff`. `trim` leaves out what the text has at its two ends, such as
spaces: `trim_eq_iff`. A text that is stripped first is cut in the same place: `cut_rdropWhile`.
-/

namespace IpxWrapper.Base

variable {α : Type}

/-! ## Cutting -/

/-- The text in front of the first element at which to stop, and the rest; `last` is the element
before the text. -/
def cut (stop : Option α → α → Bool) (last : Option α) : List α → List α × List α
  | [] => ([], [])
  | c :: s =>
      if stop last c then ([], c :: s)
      else (c :: (cut stop (some c) s).1, (cut stop (some c) s).2)

/-- There is no element at which to stop. -/
def Uncut (stop : Option α → α → Bool) (last : Option α) (s : List α) : Prop :=
  ∀ before c after, s = before ++ c :: after → stop (before.getLast?.or last) c = false

section Cut

variable {stop : Option α → α → Bool} {last : Option α} {c : α} {s a b : List α}

theorem uncut_nil : Uncut stop last [] := by
  intro before c after same
  simp at same

theorem getLast?_cons_or (c : α) (s : List α) (last : Option α) :
    (c :: s).getLast?.or last = s.getLast?.or (some c) := by
  rw [List.getLast?_cons]
  cases s.getLast? <;> rfl

theorem uncut_cons : Uncut stop last (c :: s) ↔ stop last c = false ∧ Uncut stop (some c) s := by
  constructor
  · refine fun uncut => ⟨uncut [] c s rfl, fun before d after same => ?_⟩
    rw [← getLast?_cons_or c before last]
    exact uncut (c :: before) d after (congrArg (c :: ·) same)
  · rintro ⟨first, uncut⟩ before d after same
    rcases before with _ | ⟨e, before⟩
    · obtain ⟨rfl, -⟩ := List.cons.inj same
      exact first
    · obtain ⟨rfl, rest⟩ := List.cons.inj same
      rw [getLast?_cons_or]
      exact uncut before d after rest

theorem uncut_append : Uncut stop last (a ++ b) ↔
    Uncut stop last a ∧ Uncut stop (a.getLast?.or last) b := by
  induction a generalizing last with
  | nil => exact (and_iff_right uncut_nil).symm
  | cons c a ih => rw [List.cons_append, uncut_cons, uncut_cons, ih, getLast?_cons_or, and_assoc]

theorem Uncut.concat (uncut : Uncut stop last a) (goes : ∀ last, stop last c = false) :
    Uncut stop last (a ++ [c]) :=
  uncut_append.mpr ⟨uncut, uncut_cons.mpr ⟨goes _, uncut_nil⟩⟩

theorem uncut_of_forall (goes : ∀ c ∈ s, ∀ last, stop last c = false) : Uncut stop last s := by
  rintro before c after rfl
  exact goes c (List.mem_append_right _ List.mem_cons_self) _

/-- The text is cut at the first element at which to stop. -/
theorem cut_eq_iff : cut stop last s = (a, b) ↔
    s = a ++ b ∧ Uncut stop last a ∧ ∀ c ∈ b.head?, stop (a.getLast?.or last) c = true := by
  induction s generalizing last a with
  | nil =>
      unfold cut
      constructor
      · intro same
        obtain ⟨rfl, rfl⟩ := Prod.mk.inj same
        exact ⟨rfl, uncut_nil, nofun⟩
      · rintro ⟨same, -, -⟩
        obtain ⟨rfl, rfl⟩ := List.append_eq_nil_iff.mp same.symm
        rfl
  | cons c s ih =>
      unfold cut
      by_cases stops : stop last c = true
      · rw [if_pos stops]
        constructor
        · intro same
          obtain ⟨rfl, rfl⟩ := Prod.mk.inj same
          refine ⟨rfl, uncut_nil, fun d first => ?_⟩
          obtain rfl : c = d := by simpa using first
          exact stops
        · rintro ⟨same, uncut, -⟩
          rcases a with _ | ⟨d, a⟩
          · rw [same, List.nil_append]
          · obtain ⟨rfl, -⟩ := List.cons.inj same
            have goes := (uncut_cons.mp uncut).1
            rw [stops] at goes
            cases goes
      · rw [if_neg stops]
        have goes : stop last c = false := Bool.eq_false_iff.mpr stops
        constructor
        · intro same
          obtain ⟨rfl, rest⟩ := Prod.mk.inj same
          obtain ⟨whole, uncut, ends⟩ := ih.mp (Prod.ext rfl rest)
          refine ⟨by rw [List.cons_append, ← whole], uncut_cons.mpr ⟨goes, uncut⟩, fun d first => ?_⟩
          rw [getLast?_cons_or]
          exact ends d first
        · rintro ⟨same, uncut, ends⟩
          rcases a with _ | ⟨d, a⟩
          · rw [List.nil_append] at same
            rw [← same] at ends
            exact absurd (ends c rfl) stops
          · obtain ⟨rfl, whole⟩ := List.cons.inj same
            have ends' (e : α) (first : e ∈ b.head?) : stop (a.getLast?.or (some c)) e = true := by
              rw [← getLast?_cons_or c a last]
              exact ends e first
            rw [ih.mpr ⟨whole, (uncut_cons.mp uncut).2, ends'⟩]

/-- A text with nothing at which to stop is not cut. -/
theorem cut_of_uncut (uncut : Uncut stop last s) : cut stop last s = (s, []) :=
  cut_eq_iff.mpr ⟨(List.append_nil s).symm, uncut, nofun⟩

theorem uncut_iff : Uncut stop last s ↔ (cut stop last s).2.isEmpty = true := by
  rw [List.isEmpty_iff]
  refine ⟨fun uncut => by rw [cut_of_uncut uncut], fun empty => ?_⟩
  obtain ⟨whole, uncut, -⟩ := cut_eq_iff.mp (Prod.ext rfl empty : cut stop last s = (_, []))
  rw [List.append_nil] at whole
  rwa [← whole] at uncut

instance (stop : Option α → α → Bool) (last : Option α) (s : List α) : Decidable (Uncut stop last s) :=
  decidable_of_iff _ uncut_iff.symm

end Cut

/-! ## Trimming -/

/-- The text without what it has at its ends. -/
def trim (p : α → Bool) (s : List α) : List α := (s.rdropWhile p).dropWhile p

/-- The text does not begin with what is trimmed, nor end with it. -/
structure Trimmed (p : α → Bool) (s : List α) : Prop where
  head : ∀ c ∈ s.head?, p c = false
  last : ∀ c ∈ s.getLast?, p c = false

instance (p : α → Bool) (s : List α) : Decidable (Trimmed p s) :=
  decidable_of_iff ((∀ c ∈ s.head?, p c = false) ∧ ∀ c ∈ s.getLast?, p c = false)
    ⟨fun both => ⟨both.1, both.2⟩, fun trimmed => ⟨trimmed.head, trimmed.last⟩⟩

section Trim

variable {p : α → Bool} {c : α} {s t pad : List α}

theorem dropWhile_pad (padding : ∀ c ∈ pad, p c = true) (head : ∀ c ∈ s.head?, p c = false) :
    (pad ++ s).dropWhile p = s := by
  rw [List.dropWhile_append_of_pos padding]
  cases s with
  | nil => rfl
  | cons c s => exact List.dropWhile_cons_of_neg (by simp [head c rfl])

theorem rdropWhile_pad (padding : ∀ c ∈ pad, p c = true) (last : ∀ c ∈ s.getLast?, p c = false) :
    (s ++ pad).rdropWhile p = s := by
  unfold List.rdropWhile
  rw [List.reverse_append, dropWhile_pad, List.reverse_reverse]
  · simpa using padding
  · rw [List.head?_reverse]
    exact last

theorem exists_pad (p : α → Bool) (s : List α) :
    ∃ pad, s = pad ++ s.dropWhile p ∧ (∀ c ∈ pad, p c = true) ∧
      ∀ c ∈ (s.dropWhile p).head?, p c = false := by
  refine ⟨s.takeWhile p, List.takeWhile_append_dropWhile.symm, fun c => List.mem_takeWhile_imp, ?_⟩
  intro c first
  have kept := List.head?_dropWhile_not p s
  rw [Option.mem_def.mp first] at kept
  simpa using kept

theorem exists_rpad (p : α → Bool) (s : List α) :
    ∃ pad, s = s.rdropWhile p ++ pad ∧ (∀ c ∈ pad, p c = true) ∧
      ∀ c ∈ (s.rdropWhile p).getLast?, p c = false := by
  obtain ⟨pad, whole, padding, head⟩ := exists_pad p s.reverse
  refine ⟨pad.reverse, ?_, by simpa using padding, ?_⟩
  · unfold List.rdropWhile
    rw [← List.reverse_append, ← whole, List.reverse_reverse]
  · unfold List.rdropWhile
    rw [List.getLast?_reverse]
    exact head

/-- What stands behind an element that is not stripped is stripped by itself. -/
theorem rdropWhile_append_cons (s : List α) (c_kept : p c = false) (t : List α) :
    (s ++ c :: t).rdropWhile p = s ++ c :: t.rdropWhile p := by
  obtain ⟨pad, whole, padding, last⟩ := exists_rpad p t
  have front : s ++ c :: t = (s ++ c :: t.rdropWhile p) ++ pad := by
    rw [List.append_assoc, List.cons_append, ← whole]
  rw [front, rdropWhile_pad padding]
  intro d is_last
  rw [List.getLast?_append, List.getLast?_cons, Option.some_or] at is_last
  rcases entry : (t.rdropWhile p).getLast? with _ | e
  · rw [entry] at is_last
    obtain rfl : c = d := by simpa using is_last
    exact c_kept
  · rw [entry] at is_last
    obtain rfl : e = d := by simpa using is_last
    exact last e entry

theorem dropWhile_rdropWhile (p : α → Bool) (s : List α) :
    (s.rdropWhile p).dropWhile p = (s.dropWhile p).rdropWhile p := by
  obtain ⟨pad, whole, padding, head⟩ := exists_pad p s
  rcases rest : s.dropWhile p with _ | ⟨c, t⟩
  · rw [rest, List.append_nil] at whole
    have stripped : s.rdropWhile p = [] := List.rdropWhile_eq_nil_iff.mpr (by rwa [whole])
    rw [stripped]
    rfl
  · rw [rest] at whole head
    have kept : p c = false := head c rfl
    have stripped := rdropWhile_append_cons [] kept t
    rw [List.nil_append, List.nil_append] at stripped
    rw [whole, rdropWhile_append_cons pad kept, stripped]
    refine dropWhile_pad padding fun d first => ?_
    obtain rfl : c = d := by simpa using first
    exact kept

theorem trim_trimmed (p : α → Bool) (s : List α) : Trimmed p (trim p s) := by
  constructor
  · obtain ⟨-, -, -, head⟩ := exists_pad p (s.rdropWhile p)
    exact head
  · unfold trim
    rw [dropWhile_rdropWhile]
    obtain ⟨-, -, -, last⟩ := exists_rpad p (s.dropWhile p)
    exact last

/-- The text is what is left, between what was trimmed. -/
theorem trim_eq_iff : trim p s = t ↔ Trimmed p t ∧
    ∃ pad pad', s = pad ++ t ++ pad' ∧ (∀ c ∈ pad, p c = true) ∧ ∀ c ∈ pad', p c = true := by
  constructor
  · rintro rfl
    obtain ⟨pad', whole, padding', -⟩ := exists_rpad p s
    obtain ⟨pad, rest, padding, -⟩ := exists_pad p (s.rdropWhile p)
    refine ⟨trim_trimmed p s, pad, pad', ?_, padding, padding'⟩
    unfold trim
    rw [← rest, ← whole]
  · rintro ⟨trimmed, pad, pad', rfl, padding, padding'⟩
    unfold trim
    rcases t with _ | ⟨c, t⟩
    · have stripped : (pad ++ [] ++ pad').rdropWhile p = [] := by
        refine List.rdropWhile_eq_nil_iff.mpr fun c member => ?_
        rw [List.append_nil] at member
        exact (List.mem_append.mp member).elim (padding c) (padding' c)
      rw [stripped]
      rfl
    · rw [rdropWhile_pad padding', dropWhile_pad padding trimmed.head]
      rw [List.getLast?_append_of_ne_nil _ (List.cons_ne_nil c t)]
      exact trimmed.last

theorem trim_rdropWhile (p : α → Bool) (s : List α) : trim p (s.rdropWhile p) = trim p s := by
  unfold trim
  rw [List.rdropWhile_idempotent]

end Trim

/-! ## Stripping before the cut -/

section Strip

variable {p : α → Bool} {stop : Option α → α → Bool} {last : Option α} {s : List α}

/-- A text that is stripped is cut in the same place, or neither is cut. -/
theorem cut_rdropWhile (apart : ∀ last c, stop last c = true → p c = false) (s : List α) :
    (cut stop last s = (s, []) ∧ cut stop last (s.rdropWhile p) = (s.rdropWhile p, [])) ∨
      ∃ a c b, cut stop last s = (a, c :: b) ∧ p c = false ∧
        cut stop last (s.rdropWhile p) = (a, c :: b.rdropWhile p) := by
  rcases parts : cut stop last s with ⟨a, b⟩
  obtain ⟨rfl, uncut, ends⟩ := cut_eq_iff.mp parts
  rcases b with _ | ⟨c, b⟩
  · rw [List.append_nil] at parts ⊢
    obtain ⟨pad, whole, -, -⟩ := exists_rpad p a
    refine Or.inl ⟨rfl, cut_of_uncut ?_⟩
    rw [whole] at uncut
    exact (uncut_append.mp uncut).1
  · have kept := apart _ c (ends c rfl)
    refine Or.inr ⟨a, c, b, rfl, kept, ?_⟩
    rw [rdropWhile_append_cons a kept]
    refine cut_eq_iff.mpr ⟨rfl, uncut, fun d first => ?_⟩
    obtain rfl : c = d := by simpa using first
    exact ends c rfl

/-- What is in front of the cut is the same when it is trimmed. -/
theorem trim_cut_rdropWhile (apart : ∀ last c, stop last c = true → p c = false) (s : List α) :
    trim p (cut stop last (s.rdropWhile p)).1 = trim p (cut stop last s).1 := by
  rcases cut_rdropWhile apart s with ⟨whole, stripped⟩ | ⟨a, c, b, whole, -, stripped⟩
  · rw [whole, stripped]
    exact trim_rdropWhile p s
  · rw [whole, stripped]

end Strip

/-! ## Deciding over the members

A type that is finite has instances of its own, which go over all its values. -/

namespace Members

scoped instance (priority := 2000) decidableForallList (P : α → Prop) [DecidablePred P]
    (s : List α) : Decidable (∀ a ∈ s, P a) :=
  List.decidableBAll P s

scoped instance (priority := 2000) decidableForallOption (P : α → Prop) [DecidablePred P]
    (o : Option α) : Decidable (∀ a ∈ o, P a) :=
  Option.decidableForallMem o

scoped instance (priority := 2000) decidableExistsOption (P : α → Prop) [DecidablePred P]
    (o : Option α) : Decidable (∃ a ∈ o, P a) :=
  Option.decidableExistsMem o

end Members

end IpxWrapper.Base
