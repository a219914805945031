import IpxWrapper.Ini

/-!
# The lines of an ini file (`inih/ini.c`)

`IniReads` says what a line stands for: nothing, a section, a directive, or more of the
directive in front of it. The parser does what such a line stands for, and any other line is an
error: `iniLine_of_reads`, `iniLine_of_not_reads`.
-/

namespace IpxWrapper

open Base Base.Members

/-! ## The grammar -/

/-- There are only spaces. -/
def Spaces (s : List Byte) : Prop := ∀ c ∈ s, isspaceByte c = true

/-- One of `chars`, or a semicolon behind a space. -/
def iniStop (chars : List Byte) (last : Option Byte) (c : Byte) : Bool :=
  c ∈ chars || last.any isspaceByte && c = semicolon

/-- The text is the value, with spaces around it; a comment may follow, behind a space. -/
inductive IniValue : List Byte → List Byte → Prop
  | intro {pad value pad' comment : List Byte} (front : Spaces pad) (back : Spaces pad')
      (trimmed : Trimmed isspaceByte value) (whole : Uncut (iniStop []) none (pad ++ value ++ pad'))
      (ends : ∀ c ∈ comment.head?, c = semicolon ∧
        (pad ++ value ++ pad').getLast?.any isspaceByte = true) :
      IniValue (pad ++ value ++ pad' ++ comment) value

inductive IniItem where
  | nothing
  /-- More of the directive whose name was last. -/
  | continuation (value : List Byte)
  | sectionStart (name : List Byte)
  | directive (name value : List Byte)
deriving DecidableEq

/-- What a line stands for; `named` says that it can go on with a directive. -/
inductive IniReads (named : Prop) : List Byte → IniItem → Prop
  | blank {pad : List Byte} (spaces : Spaces pad) : IniReads named pad .nothing
  | comment {pad rest : List Byte} {c : Byte} (spaces : Spaces pad) (first : isspaceByte c = false)
      (start : c ∈ iniStartCommentPrefixes) : IniReads named (pad ++ c :: rest) .nothing
  | continuation {pad rest value : List Byte} {c : Byte} (spaces : Spaces pad)
      (first : isspaceByte c = false) (start : c ∉ iniStartCommentPrefixes) (on : named)
      (indented : pad ≠ []) (behind : IniValue (c :: rest) value) :
      IniReads named (pad ++ c :: rest) (.continuation value)
  | sectionStart {pad name rest : List Byte} (spaces : Spaces pad) (flush : named → pad = [])
      (whole : Uncut (iniStop (literal [']'])) none name) :
      IniReads named (pad ++ '['.toUInt8 :: (name ++ ']'.toUInt8 :: rest)) (.sectionStart name)
  | directive {pad name gap text value : List Byte} {sep : Byte} (spaces : Spaces pad)
      (flush : named → pad = []) (back : Spaces gap)
      (first : ∀ c ∈ (name ++ gap ++ [sep]).head?,
        isspaceByte c = false ∧ c ∉ iniStartCommentPrefixes ∧ c ≠ '['.toUInt8)
      (last : ∀ c ∈ name.getLast?, isspaceByte c = false)
      (whole : Uncut (iniStop (literal ['=', ':'])) none (name ++ gap))
      (separator : sep ∈ literal ['=', ':']) (behind : IniValue text value) :
      IniReads named (pad ++ (name ++ gap ++ sep :: text)) (.directive name value)

/-- What the parser does for an item. -/
def IniItem.run {σ : Type} (handler : IniHandler σ) (lineno : Nat) (st : IniState σ) :
    IniItem → IniState σ
  | nothing => st
  | continuation value => st.call handler lineno st.prevName value
  | sectionStart name => { st with sectionName := iniStrncpy0 name iniMaxName, prevName := [] }
  | directive name value =>
      { st with prevName := iniStrncpy0 name iniMaxName }.call handler lineno name value

/-! ## Values -/

section Values

variable {chars s text value : List Byte} {last : Option Byte} {c : Byte}

theorem iniFindCharsOrComment_eq (chars : List Byte) (last : Option Byte) (s : List Byte) :
    iniFindCharsOrComment chars (last.any isspaceByte) s = cut (iniStop chars) last s := by
  induction s generalizing last with
  | nil => rfl
  | cons c s ih =>
      have rest := ih (some c)
      rw [Option.any_some] at rest
      unfold iniFindCharsOrComment cut
      have stops : (c ∈ chars ∨ last.any isspaceByte = true ∧ c = semicolon) ↔
          iniStop chars last c = true := by simp [iniStop]
      simp only [stops, rest]

theorem iniFind_eq (chars s : List Byte) :
    iniFindCharsOrComment chars false s = cut (iniStop chars) none s :=
  iniFindCharsOrComment_eq chars none s

/-- The parser does not stop at a space. -/
theorem not_isspace_of_iniStop (apart : ∀ c ∈ chars, isspaceByte c = false) (last : Option Byte)
    (c : Byte) (stops : iniStop chars last c = true) : isspaceByte c = false := by
  simp only [iniStop, Bool.or_eq_true, Bool.and_eq_true, decide_eq_true_eq] at stops
  rcases stops with char | ⟨-, rfl⟩
  · exact apart c char
  · decide

theorem iniStop_of_not_mem (other : c ∉ chars) (not_comment : c ≠ semicolon) (last : Option Byte) :
    iniStop chars last c = false := by
  simp [iniStop, other, not_comment]

theorem not_isspace_of_iniStop_nil : ∀ last c, iniStop [] last c = true → isspaceByte c = false :=
  not_isspace_of_iniStop nofun

/-- The value is what is left of the text in front of a comment. -/
theorem iniValue_iff :
    IniValue text value ↔ trim isspaceByte (cut (iniStop []) none text).1 = value := by
  constructor
  · rintro ⟨front, back, trimmed, whole, ends⟩
    rename_i pad pad' comment
    have cuts : cut (iniStop []) none (pad ++ value ++ pad' ++ comment) =
        (pad ++ value ++ pad', comment) := by
      refine cut_eq_iff.mpr ⟨rfl, whole, fun c first => ?_⟩
      obtain ⟨rfl, space⟩ := ends c first
      rw [iniStop, Option.or_none, space]
      simp
    rw [cuts]
    exact trim_eq_iff.mpr ⟨trimmed, pad, pad', rfl, front, back⟩
  · intro trims
    obtain ⟨trimmed, pad, pad', parts, front, back⟩ := trim_eq_iff.mp trims
    obtain ⟨both, whole, ends⟩ := cut_eq_iff.mp
      (Prod.ext rfl rfl : cut (iniStop []) none text = (_, (cut (iniStop []) none text).2))
    rw [parts] at both whole ends
    rw [both]
    refine .intro front back trimmed whole fun c first => ?_
    have stops := ends c first
    simp only [iniStop, List.not_mem_nil, decide_false, Bool.false_or, Bool.and_eq_true,
      decide_eq_true_eq, Option.or_none] at stops
    exact ⟨stops.2, stops.1⟩

theorem iniRstrip_cons (first : isspaceByte c = false) (s : List Byte) :
    iniRstrip (c :: s) = c :: iniRstrip s :=
  rdropWhile_append_cons [] first s

/-- The value of a directive, of a line that was stripped. -/
theorem directive_value (text : List Byte) :
    iniRstrip (iniLskip (iniFindCharsOrComment [] false (iniRstrip text)).1) =
      trim isspaceByte (cut (iniStop []) none text).1 := by
  rw [iniFind_eq, ← trim_cut_rdropWhile not_isspace_of_iniStop_nil]
  exact (dropWhile_rdropWhile isspaceByte _).symm

/-- The value of a continuation, of a line that was stripped. -/
theorem continuation_value (first : isspaceByte c = false) (rest : List Byte) :
    iniRstrip (iniFindCharsOrComment [] false (iniRstrip (c :: rest))).1 =
      trim isspaceByte (cut (iniStop []) none (c :: rest)).1 := by
  rw [← trim_cut_rdropWhile not_isspace_of_iniStop_nil, iniFind_eq, ← iniRstrip, iniRstrip_cons first,
    cut]
  -- the text begins with `c`, which is neither a comment nor a space
  have goes : ¬ iniStop [] none c = true := by simp [iniStop]
  have kept : ¬ isspaceByte c = true := by simp [first]
  rw [if_neg goes, iniRstrip_cons first, trim, ← iniRstrip, iniRstrip_cons first,
    List.dropWhile_cons_of_neg kept]

end Values

/-! ## Lines -/

section Lines

variable {σ : Type} {handler : IniHandler σ} {lineno : Nat} {st : IniState σ} {item : IniItem}
  {line pad rest : List Byte} {c : Byte}

/-- A line has only spaces, or begins with a character behind some. -/
theorem spaces_or_first (s : List Byte) :
    Spaces s ∨ ∃ pad c rest, s = pad ++ c :: rest ∧ Spaces pad ∧ isspaceByte c = false := by
  obtain ⟨pad, whole, spaces, first⟩ := exists_pad isspaceByte s
  rcases back : s.dropWhile isspaceByte with _ | ⟨c, rest⟩
  · rw [back, List.append_nil] at whole
    rw [whole]
    exact Or.inl spaces
  · rw [back] at whole first
    exact Or.inr ⟨pad, c, rest, whole, spaces, first c rfl⟩

theorem iniLine_spaces (spaces : Spaces (skipBom lineno line)) :
    iniLine handler lineno line st = st := by
  have stripped : iniRstrip (skipBom lineno line) = [] := List.rdropWhile_eq_nil_iff.mpr spaces
  unfold iniLine
  dsimp only
  rw [stripped]
  exact if_pos rfl

/-- The line is indented if there are spaces in front of its first character; a byte order mark
is in a line that cannot go on with a directive. -/
theorem indent_iff (body : skipBom lineno line = pad ++ c :: rest) (first : isspaceByte c = false)
    (later : st.prevName ≠ [] → lineno ≠ 1) :
    (st.prevName ≠ [] ∧ 0 < (line.length - (pad ++ c :: rest).length) +
      ((iniRstrip (pad ++ c :: rest)).length - (iniRstrip (c :: rest)).length)) ↔
      st.prevName ≠ [] ∧ pad ≠ [] := by
  refine and_congr_right fun on => ?_
  have marked : skipBom lineno line = line := if_neg fun both => later on both.1
  have stripped : iniRstrip (pad ++ c :: rest) = pad ++ iniRstrip (c :: rest) := by
    rw [iniRstrip_cons first]
    exact rdropWhile_append_cons pad first rest
  rw [← body, marked, Nat.sub_self, ← marked, body, stripped, List.length_append, Nat.zero_add,
    Nat.add_sub_cancel, List.length_pos_iff]

/-- What the parser does with a line whose first character behind spaces is `c`. -/
theorem iniLine_first (body : skipBom lineno line = pad ++ c :: rest) (spaces : Spaces pad)
    (first : isspaceByte c = false) (later : st.prevName ≠ [] → lineno ≠ 1) :
    iniLine handler lineno line st =
      if c ∈ iniStartCommentPrefixes then st
      else if st.prevName ≠ [] ∧ pad ≠ [] then
        st.call handler lineno st.prevName
          (trim isspaceByte (cut (iniStop []) none (c :: rest)).1)
      else if c = '['.toUInt8 then
        if (cut (iniStop (literal [']'])) none rest).2.head? = some ']'.toUInt8 then
          IniItem.run handler lineno st (.sectionStart (cut (iniStop (literal [']'])) none rest).1)
        else
          st.fail lineno
      else
        if (cut (iniStop (literal ['=', ':'])) none (c :: rest)).2.head? = some '='.toUInt8 ∨
            (cut (iniStop (literal ['=', ':'])) none (c :: rest)).2.head? = some ':'.toUInt8 then
          IniItem.run handler lineno st
            (.directive (iniRstrip (cut (iniStop (literal ['=', ':'])) none (c :: rest)).1)
              (trim isspaceByte (cut (iniStop []) none
                (cut (iniStop (literal ['=', ':'])) none (c :: rest)).2.tail).1))
        else
          st.fail lineno := by
  have start : iniLskip (iniRstrip (pad ++ c :: rest)) = iniRstrip (c :: rest) := by
    rw [iniRstrip_cons first]
    unfold iniLskip iniRstrip
    rw [rdropWhile_append_cons pad first, dropWhile_pad spaces]
    intro d head
    obtain rfl : c = d := by simpa using head
    exact first
  unfold iniLine
  rw [body]
  dsimp only
  rw [start]
  simp only [indent_iff body first later]
  rw [continuation_value first, iniRstrip_cons first, List.head?_cons, List.tail_cons]
  refine if_congr (by simp) rfl (if_congr Iff.rfl rfl (if_congr (by simp) ?_ ?_))
  · -- a section
    rw [iniFind_eq]
    have apart : ∀ d ∈ literal [']'], isspaceByte d = false := by decide
    rcases cut_rdropWhile (not_isspace_of_iniStop apart) rest with ⟨whole, stripped⟩ |
      ⟨name, d, after, whole, -, stripped⟩
    all_goals
      rw [iniRstrip, whole, stripped]
      rfl
  · -- a directive
    rw [← iniRstrip_cons first, iniFind_eq]
    have apart : ∀ d ∈ literal ['=', ':'], isspaceByte d = false := by decide
    rcases cut_rdropWhile (not_isspace_of_iniStop apart) (c :: rest) with ⟨whole, stripped⟩ |
      ⟨name, d, after, whole, -, stripped⟩
    · rw [iniRstrip, whole, stripped]
      rfl
    · rw [iniRstrip, whole, stripped]
      dsimp only [List.tail_cons, List.head?_cons]
      rw [← iniRstrip, directive_value]
      rfl

/-- A line that stands for something is handled so. -/
theorem iniLine_of_reads (later : st.prevName ≠ [] → lineno ≠ 1)
    (reads : IniReads (st.prevName ≠ []) (skipBom lineno line) item) :
    iniLine handler lineno line st = item.run handler lineno st := by
  generalize body : skipBom lineno line = s at reads
  cases reads with
  | blank spaces => exact iniLine_spaces (body ▸ spaces)
  | comment spaces first start => rw [iniLine_first body spaces first later, if_pos start]; rfl
  | continuation spaces first start on indented behind =>
      rw [iniLine_first body spaces first later, if_neg start, if_pos ⟨on, indented⟩,
        iniValue_iff.mp behind]
      rfl
  | sectionStart spaces flush whole =>
      rename_i pad name rest
      have cuts : cut (iniStop (literal [']'])) none (name ++ ']'.toUInt8 :: rest) =
          (name, ']'.toUInt8 :: rest) := by
        refine cut_eq_iff.mpr ⟨rfl, whole, fun c first => ?_⟩
        obtain rfl : ']'.toUInt8 = c := by simpa using first
        simp [iniStop, literal]
      have start : ¬ '['.toUInt8 ∈ iniStartCommentPrefixes := by decide
      rw [iniLine_first body spaces (by decide) later, if_neg start,
        if_neg fun both => both.2 (flush both.1), if_pos rfl, cuts, List.head?_cons, if_pos rfl]
  | directive spaces flush back first last whole separator behind =>
      rename_i pad name gap text value sep
      obtain ⟨c, rest, front⟩ : ∃ c rest, name ++ gap ++ sep :: text = c :: rest :=
        List.exists_cons_of_ne_nil (by simp)
      have is_first : c ∈ (name ++ gap ++ [sep]).head? := by
        have same := congrArg List.head? front
        rw [List.head?_append] at same ⊢
        exact same
      obtain ⟨not_space, not_comment, not_section⟩ := first c is_first
      have cuts : cut (iniStop (literal ['=', ':'])) none (c :: rest) = (name ++ gap, sep :: text) := by
        refine cut_eq_iff.mpr ⟨front.symm, whole, fun d head => ?_⟩
        obtain rfl : sep = d := by simpa using head
        simp [iniStop, separator]
      have is_sep : some sep = some '='.toUInt8 ∨ some sep = some ':'.toUInt8 := by
        simpa [literal] using separator
      have stripped : iniRstrip (name ++ gap) = name := rdropWhile_pad back last
      rw [front] at body
      rw [iniLine_first body spaces not_space later, if_neg not_comment,
        if_neg fun both => both.2 (flush both.1), if_neg not_section, cuts, List.head?_cons,
        if_pos is_sep, stripped, List.tail_cons, iniValue_iff.mp behind]

/-- Any other line is an error. -/
theorem iniLine_of_not_reads (later : st.prevName ≠ [] → lineno ≠ 1)
    (bad : ∀ item, ¬ IniReads (st.prevName ≠ []) (skipBom lineno line) item) :
    iniLine handler lineno line st = st.fail lineno := by
  rcases spaces_or_first (skipBom lineno line) with spaces | ⟨pad, c, rest, body, spaces, first⟩
  · exact absurd (.blank spaces) (bad .nothing)
  rw [body] at bad
  rw [iniLine_first body spaces first later]
  by_cases start : c ∈ iniStartCommentPrefixes
  · exact absurd (.comment spaces first start) (bad .nothing)
  rw [if_neg start]
  by_cases both : st.prevName ≠ [] ∧ pad ≠ []
  · exact absurd (.continuation spaces first start both.1 both.2 (iniValue_iff.mpr rfl)) (bad _)
  have flush (on : st.prevName ≠ []) : pad = [] := not_not.mp fun indented => both ⟨on, indented⟩
  rw [if_neg both]
  by_cases opens : c = '['.toUInt8
  · subst opens
    rw [if_pos rfl]
    split
    · rename_i closes
      rcases parts : cut (iniStop (literal [']'])) none rest with ⟨name, after⟩
      rw [parts] at closes
      obtain ⟨rfl, whole, -⟩ := cut_eq_iff.mp parts
      rcases after with _ | ⟨d, after⟩
      · cases closes
      · obtain rfl : d = ']'.toUInt8 := by simpa using closes
        exact absurd (.sectionStart spaces flush whole) (bad _)
    · rfl
  · rw [if_neg opens]
    split
    · rename_i separated
      rcases parts : cut (iniStop (literal ['=', ':'])) none (c :: rest) with ⟨front, after⟩
      rw [parts] at separated
      obtain ⟨both', whole, -⟩ := cut_eq_iff.mp parts
      rcases after with _ | ⟨sep, text⟩
      · simp at separated
      obtain ⟨gap, split, back, last⟩ := exists_rpad isspaceByte front
      have separator : sep ∈ literal ['=', ':'] := by simpa [literal] using separated
      rw [both'] at bad
      rw [split] at whole bad
      refine absurd (.directive spaces flush back (fun d head => ?_) last whole separator
        (iniValue_iff.mpr rfl)) (bad _)
      obtain rfl : c = d := by
        have same := congrArg List.head? both'
        rw [← split] at head
        rw [List.head?_append] at same head
        exact Option.some_inj.mp (same.trans head)
      exact ⟨first, start, opens⟩
    · rfl

end Lines

end IpxWrapper
