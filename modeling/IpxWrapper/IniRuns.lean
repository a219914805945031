import IpxWrapper.IniGrammar

/-!
# Ini files (`inih/ini.c`)

The calls that a file stands for are those of its lines, each with the section and the name in
front of it (`IniMeans`). The parser makes these calls, whatever the handler does with them, and
returns the number of the first line that is in error or that the handler rejects
(`iniParseFile_means`).
-/

namespace IpxWrapper

open Base

/-! ## What a file stands for -/

/-- The lines that `fgets` returns. -/
def streamLines (stream : List Byte) : List (List Byte) :=
  match read : fgets iniMaxLine stream with
  | none => []
  | some (line, rest) =>
      have := fgets_shorter (by decide : 1 < iniMaxLine) read
      line :: streamLines rest
termination_by stream.length

/-- The section and the directive that a line comes behind. -/
structure IniPlace where
  sectionName : List Byte
  prevName : List Byte

def IniPlace.start : IniPlace := ⟨[], []⟩

/-- What a line asks for: a call of the handler, or that it is reported. -/
inductive IniEvent where
  | call (sectionName name value : List Byte) (lineno : Nat)
  | bad (lineno : Nat)

namespace IniItem

/-- The place behind the item. -/
def move (place : IniPlace) : IniItem → IniPlace
  | nothing => place
  | continuation _ => place
  | sectionStart name => ⟨iniStrncpy0 name iniMaxName, []⟩
  | directive name _ => { place with prevName := iniStrncpy0 name iniMaxName }

def events (place : IniPlace) (lineno : Nat) : IniItem → List IniEvent
  | nothing => []
  | continuation value => [.call place.sectionName place.prevName value lineno]
  | sectionStart _ => []
  | directive name value => [.call place.sectionName name value lineno]

end IniItem

/-- What the lines behind line `lineno` ask for, from a place on. -/
inductive IniMeans : IniPlace → Nat → List (List Byte) → List IniEvent → Prop
  | nil {place : IniPlace} {lineno : Nat} : IniMeans place lineno [] []
  | item {place : IniPlace} {lineno : Nat} {line : List Byte} {lines : List (List Byte)}
      {item : IniItem} {events : List IniEvent}
      (reads : IniReads (place.prevName ≠ []) (skipBom (lineno + 1) line) item)
      (rest : IniMeans (item.move place) (lineno + 1) lines events) :
      IniMeans place lineno (line :: lines) (item.events place (lineno + 1) ++ events)
  | bad {place : IniPlace} {lineno : Nat} {line : List Byte} {lines : List (List Byte)}
      {events : List IniEvent}
      (none : ∀ item, ¬ IniReads (place.prevName ≠ []) (skipBom (lineno + 1) line) item)
      (rest : IniMeans place (lineno + 1) lines events) :
      IniMeans place lineno (line :: lines) (.bad (lineno + 1) :: events)

section Events

variable {σ : Type}

/-- The user data after the calls. -/
def userAfter (handler : IniHandler σ) : σ → List IniEvent → σ
  | user, [] => user
  | user, .call sectionName name value lineno :: events =>
      userAfter handler (handler user sectionName name value lineno).1 events
  | user, .bad _ :: events => userAfter handler user events

/-- The lines that are in error, or that the handler rejects. -/
def failedLines (handler : IniHandler σ) : σ → List IniEvent → List Nat
  | _, [] => []
  | user, .call sectionName name value lineno :: events =>
      let (user, ok) := handler user sectionName name value lineno
      if ok then failedLines handler user events else lineno :: failedLines handler user events
  | user, .bad lineno :: events => lineno :: failedLines handler user events

/-- The parser has read the lines in front of the events. -/
def IniState.after (handler : IniHandler σ) (st : IniState σ) (events : List IniEvent) : σ × Nat :=
  (userAfter handler st.user events,
    if st.error = 0 then (failedLines handler st.user events).headD 0 else st.error)

end Events

/-! ## The parser -/

/-- The parser goes through lines that were read. -/
def iniLines {σ : Type} (handler : IniHandler σ) : Nat → List (List Byte) → IniState σ → IniState σ
  | _, [], st => st
  | lineno, line :: lines, st =>
      iniLines handler (lineno + 1) lines (iniLine handler (lineno + 1) line st)

section Parser

variable {σ : Type} {handler : IniHandler σ} {lineno : Nat} {st : IniState σ}
  {events : List IniEvent} {item : IniItem}

theorem streamLines_of_fgets {stream line rest : List Byte}
    (read : fgets iniMaxLine stream = some (line, rest)) :
    streamLines stream = line :: streamLines rest := by
  rw [streamLines]
  split
  · rename_i none
    rw [none] at read
    cases read
  · rename_i some
    rw [some] at read
    obtain ⟨rfl, rfl⟩ := Prod.mk.inj (Option.some.inj read)
    rfl

theorem streamLines_nil : streamLines [] = [] := by
  rw [streamLines]
  rfl

/-- The place in front of the next line. -/
def IniState.place (st : IniState σ) : IniPlace := ⟨st.sectionName, st.prevName⟩

theorem IniState.place_fail : (st.fail lineno).place = st.place := rfl

theorem IniState.place_call (name value : List Byte) :
    (st.call handler lineno name value).place = st.place := by
  unfold IniState.call IniState.fail IniState.place
  dsimp only
  split <;> rfl

theorem IniItem.place_run : (item.run handler lineno st).place = item.move st.place := by
  cases item with
  | nothing => rfl
  | continuation value => exact IniState.place_call st.prevName value
  | sectionStart name => rfl
  | directive name value => exact IniState.place_call name value

theorem IniState.after_fail (positive : lineno ≠ 0) :
    (st.fail lineno).after handler events = st.after handler (.bad lineno :: events) := by
  unfold IniState.after IniState.fail
  by_cases clean : st.error = 0 <;> simp [clean, positive, userAfter, failedLines]

theorem IniState.after_call (positive : lineno ≠ 0) (name value : List Byte) :
    (st.call handler lineno name value).after handler events =
      st.after handler (.call st.sectionName name value lineno :: events) := by
  unfold IniState.after IniState.call IniState.fail
  by_cases ok : (handler st.user st.sectionName name value lineno).2 = true <;>
    by_cases clean : st.error = 0 <;> simp [ok, clean, positive, userAfter, failedLines]

theorem IniItem.after_run (positive : lineno ≠ 0) : (item.run handler lineno st).after handler events =
    st.after handler (item.events st.place lineno ++ events) := by
  cases item with
  | nothing => rfl
  | continuation value => exact IniState.after_call positive st.prevName value
  | sectionStart name => rfl
  | directive name value => exact IniState.after_call positive name value

/-- The parser goes through the lines that `fgets` returns. -/
theorem iniParseLines_eq (handler : IniHandler σ) (lineno : Nat) (stream : List Byte)
    (st : IniState σ) :
    iniParseLines handler lineno stream st =
      iniLines handler lineno ((streamLines stream).map cstr) st := by
  fun_induction iniParseLines handler lineno stream st with
  | case1 lineno stream st read =>
      have empty : streamLines stream = [] := by
        rw [streamLines]
        split
        · rfl
        · rename_i some
          rw [read] at some
          cases some
      rw [empty]
      rfl
  | case2 lineno stream st line rest read _ ih =>
      rw [streamLines_of_fgets read, List.map_cons, iniLines]
      exact ih

/-- The parser does what the lines that are left ask for. -/
theorem iniLines_means {place : IniPlace} {lines : List (List Byte)}
    (means : IniMeans place lineno lines events) (here : st.place = place)
    (later : lineno = 0 → place.prevName = []) :
    ((iniLines handler lineno lines st).user, (iniLines handler lineno lines st).error) =
      st.after handler events := by
  induction means generalizing st with
  | nil =>
      unfold iniLines IniState.after userAfter failedLines
      by_cases clean : st.error = 0 <;> simp [clean]
  | item reads rest ih =>
      rename_i place lineno line lines item events
      obtain rfl := here
      have unnamed (on : st.prevName ≠ []) : lineno + 1 ≠ 1 := fun first =>
        on (later (Nat.succ.inj first))
      rw [iniLines, iniLine_of_reads unnamed reads,
        ih IniItem.place_run fun first => absurd first (Nat.succ_ne_zero lineno),
        IniItem.after_run (Nat.succ_ne_zero lineno)]
  | bad none rest ih =>
      rename_i place lineno line lines events
      obtain rfl := here
      have unnamed (on : st.prevName ≠ []) : lineno + 1 ≠ 1 := fun first =>
        on (later (Nat.succ.inj first))
      rw [iniLines, iniLine_of_not_reads unnamed none,
        ih IniState.place_fail fun first => absurd first (Nat.succ_ne_zero lineno),
        IniState.after_fail (Nat.succ_ne_zero lineno)]

theorem iniParseFile_eq {stream : List Byte} {user : σ}
    (means : IniMeans .start 0 ((streamLines stream).map cstr) events) :
    iniParseFile handler stream user =
      (userAfter handler user events, (failedLines handler user events).headD 0) := by
  unfold iniParseFile
  rw [iniParseLines_eq]
  exact iniLines_means means rfl fun _ => rfl

/-- Every file stands for something. -/
theorem exists_iniMeans (place : IniPlace) (lineno : Nat) (lines : List (List Byte)) :
    ∃ events, IniMeans place lineno lines events := by
  induction lines generalizing place lineno with
  | nil => exact ⟨[], .nil⟩
  | cons line lines ih =>
      by_cases reads : ∃ item, IniReads (place.prevName ≠ []) (skipBom (lineno + 1) line) item
      · obtain ⟨item, reads⟩ := reads
        obtain ⟨events, rest⟩ := ih (item.move place) (lineno + 1)
        exact ⟨_, .item reads rest⟩
      · obtain ⟨events, rest⟩ := ih place (lineno + 1)
        exact ⟨_, .bad (not_exists.mp reads) rest⟩

end Parser

/-- A file stands for events, and the parser makes their calls in order, going on after an error;
it returns the first line that is in error or that the handler rejects, or zero. -/
theorem iniParseFile_means {σ : Type} (handler : IniHandler σ) (stream : List Byte) (user : σ) :
    (∃ events, IniMeans .start 0 ((streamLines stream).map cstr) events) ∧
      ∀ events, IniMeans .start 0 ((streamLines stream).map cstr) events →
        iniParseFile handler stream user =
          (userAfter handler user events, (failedLines handler user events).headD 0) :=
  ⟨exists_iniMeans _ _ _, fun _ means => iniParseFile_eq means⟩

end IpxWrapper
