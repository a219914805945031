import IpxWrapper.IniRuns

/-!
# Ini files that are written (`inih/ini.c`)

Items and comments that can stand in a file are written a line each, behind a byte order mark or
without one; the parser makes the calls for them, and finds no error (`iniParseFile_written`).
-/

namespace IpxWrapper

open Base Base.Members

/-! ## Writing -/

def space : Byte := 32

/-- The byte order mark of UTF-8. -/
def iniBom : List Byte := [0xEF, 0xBB, 0xBF]

namespace IniItem

/-- A line for the item. -/
def written : IniItem → List Byte
  | nothing => []
  | continuation value => space :: value
  | sectionStart name => '['.toUInt8 :: (name ++ literal [']'])
  | directive name value => name ++ space :: '='.toUInt8 :: space :: value

/-- The item can be told from its line. -/
def Legible (named : Prop) : IniItem → Prop
  | nothing => True
  | continuation value =>
      named ∧ Trimmed isspaceByte value ∧ Uncut (iniStop []) none value ∧
        ∃ c ∈ value.head?, c ∉ iniStartCommentPrefixes
  | sectionStart name => Uncut (iniStop (literal [']'])) none name
  | directive name value =>
      Trimmed isspaceByte name ∧ Uncut (iniStop (literal ['=', ':'])) none name ∧
        (∃ c ∈ name.head?, c ∉ iniStartCommentPrefixes ∧ c ≠ '['.toUInt8) ∧
        Trimmed isspaceByte value ∧ Uncut (iniStop []) (some space) value

instance decidableLegible (named : Prop) [Decidable named] : (item : IniItem) →
    Decidable (item.Legible named)
  | nothing => .isTrue trivial
  | continuation _ => inferInstanceAs (Decidable (_ ∧ _))
  | sectionStart _ => inferInstanceAs (Decidable (Uncut _ _ _))
  | directive _ _ => inferInstanceAs (Decidable (_ ∧ _))

end IniItem

/-- What a line is written for: an item, or a comment behind `pad`. -/
inductive IniText where
  | item (item : IniItem)
  | comment (pad text : List Byte)

namespace IniText

/-- What the parser is to read. -/
def stands : IniText → IniItem
  | item i => i
  | comment _ _ => .nothing

def written : IniText → List Byte
  | item i => i.written
  | comment pad text => pad ++ text

/-- A comment begins like one, whether its line could go on with a directive or not. -/
def Legible (named : Prop) : IniText → Prop
  | item i => i.Legible named
  | comment pad text => Spaces pad ∧ ∃ c ∈ text.head?, c ∈ iniStartCommentPrefixes

instance decidableLegible (named : Prop) [Decidable named] : (text : IniText) →
    Decidable (text.Legible named)
  | item i => inferInstanceAs (Decidable (i.Legible named))
  | comment pad _ => inferInstanceAs (Decidable ((∀ c ∈ pad, _) ∧ _))

/-- The line can be read for what it is, and fits the buffer. -/
structure Writable (named : Prop) (text : IniText) : Prop where
  legible : text.Legible named
  plain : ∀ c ∈ text.written, c ≠ 0 ∧ c ≠ newline
  fits : text.written.length ≤ 198

instance (named : Prop) [Decidable named] (text : IniText) : Decidable (text.Writable named) :=
  decidable_of_iff (text.Legible named ∧ (∀ c ∈ text.written, c ≠ 0 ∧ c ≠ newline) ∧
      text.written.length ≤ 198)
    ⟨fun all => ⟨all.1, all.2.1, all.2.2⟩, fun writable => ⟨writable.legible, writable.plain,
      writable.fits⟩⟩

end IniText

/-- Each line can be written where it stands. -/
def AllWritable : IniPlace → List IniText → Prop
  | _, [] => True
  | place, text :: texts =>
      text.Writable (place.prevName ≠ []) ∧ AllWritable (text.stands.move place) texts

instance decidableAllWritable : (place : IniPlace) → (texts : List IniText) →
    Decidable (AllWritable place texts)
  | _, [] => .isTrue trivial
  | place, text :: texts =>
      have := decidableAllWritable (text.stands.move place) texts
      inferInstanceAs (Decidable (_ ∧ _))

def writeTexts (texts : List IniText) : List Byte :=
  texts.flatMap fun text => text.written ++ [newline]

/-- There is a mark, behind which the first line fits, or the file does not begin like one. -/
def Marked (mark : List Byte) (texts : List IniText) : Prop :=
  mark = iniBom ∧ (∃ text ∈ texts.head?, text.written.length ≤ 195) ∨
    mark = [] ∧ (writeTexts texts).take 3 ≠ iniBom

/-- What the lines behind line `lineno` ask for. -/
def textsEvents : IniPlace → Nat → List IniText → List IniEvent
  | _, _, [] => []
  | place, lineno, text :: texts =>
      text.stands.events place (lineno + 1) ++ textsEvents (text.stands.move place) (lineno + 1) texts

/-! ## Lines -/

section Lines

variable {named : Prop} {item : IniItem} {line rest : List Byte}

theorem readLine_line {n : Nat} (plain : newline ∉ line) (room : line.length < n) :
    readLine n (line ++ newline :: rest) = (line ++ [newline], rest) := by
  induction line generalizing n with
  | nil =>
      cases n with
      | zero => exact absurd room (Nat.lt_irrefl 0)
      | succ n => exact if_pos rfl
  | cons c line ih =>
      rw [List.mem_cons, not_or] at plain
      cases n with
      | zero => exact absurd room (Nat.not_lt_zero _)
      | succ n =>
          rw [List.cons_append, readLine, if_neg (Ne.symm plain.1),
            ih plain.2 (Nat.lt_of_succ_lt_succ room)]
          rfl

theorem streamLines_line (rest : List Byte) (plain : newline ∉ line) (room : line.length ≤ 198) :
    streamLines (line ++ newline :: rest) = (line ++ [newline]) :: streamLines rest := by
  refine streamLines_of_fgets ?_
  have fits : line.length < iniMaxLine - 1 := Nat.lt_succ_of_le room
  unfold fgets
  rw [if_neg (by simp), readLine_line plain fits]

theorem cstr_of_plain (plain : ∀ c ∈ line, c ≠ 0) : cstr line = line := by
  refine List.takeWhile_eq_self_iff.mpr fun c member => ?_
  simpa using plain c member

theorem spaces_nil : Spaces [] := nofun

theorem spaces_space : Spaces [space] := by simp [Spaces, space, isspaceByte]

theorem spaces_newline : Spaces [newline] := by simp [Spaces, newline, isspaceByte]

/-- A value that is written behind a space, at the end of a line. -/
theorem iniValue_written {value : List Byte} (trimmed : Trimmed isspaceByte value)
    (whole : Uncut (iniStop []) (some space) value) : IniValue (space :: (value ++ [newline])) value := by
  have whole' : Uncut (iniStop []) none ([space] ++ value ++ [newline]) := by
    rw [List.singleton_append, List.cons_append, uncut_cons]
    exact ⟨rfl, whole.concat (iniStop_of_not_mem List.not_mem_nil (by decide))⟩
  have text : IniValue ([space] ++ value ++ [newline] ++ []) value :=
    .intro spaces_space spaces_newline trimmed whole' nofun
  rwa [List.append_nil] at text

theorem IniItem.Legible.reads (legible : item.Legible named) :
    IniReads named (item.written ++ [newline]) item := by
  cases item with
  | nothing => exact .blank spaces_newline
  | continuation value =>
      obtain ⟨on, trimmed, whole, c, first, start⟩ := legible
      obtain ⟨rest, rfl⟩ : ∃ rest, value = c :: rest := List.head?_eq_some_iff.mp first
      have whole' : Uncut (iniStop []) none ([] ++ c :: rest ++ [newline]) :=
        whole.concat (iniStop_of_not_mem List.not_mem_nil (by decide))
      have text : IniValue ([] ++ c :: rest ++ [newline] ++ []) (c :: rest) :=
        .intro spaces_nil spaces_newline trimmed whole' nofun
      rw [List.append_nil, List.nil_append] at text
      have reads : IniReads named ([space] ++ c :: (rest ++ [newline])) (.continuation (c :: rest)) :=
        .continuation spaces_space (trimmed.head c first) start on (List.cons_ne_nil _ _) text
      exact reads
  | sectionStart name =>
      have reads : IniReads named ([] ++ '['.toUInt8 :: (name ++ ']'.toUInt8 :: [newline]))
          (.sectionStart name) := .sectionStart spaces_nil (fun _ => rfl) legible
      unfold IniItem.written
      rw [List.cons_append, List.append_assoc]
      exact reads
  | directive name value =>
      obtain ⟨trimmed, whole, ⟨c, first, start⟩, trimmed', whole'⟩ := legible
      obtain ⟨rest, rfl⟩ : ∃ rest, name = c :: rest := List.head?_eq_some_iff.mp first
      have front : Uncut (iniStop (literal ['=', ':'])) none (c :: rest ++ [space]) :=
        whole.concat (iniStop_of_not_mem (by decide) (by decide))
      have reads : IniReads named
          ([] ++ (c :: rest ++ [space] ++ '='.toUInt8 :: (space :: (value ++ [newline]))))
          (.directive (c :: rest) value) := by
        refine .directive spaces_nil (fun _ => rfl) spaces_space (fun d head => ?_) trimmed.last front
          (by decide) (iniValue_written trimmed' whole')
        obtain rfl : c = d := by simpa using head
        exact ⟨trimmed.head c rfl, start⟩
      unfold IniItem.written
      rw [List.append_assoc]
      rw [List.nil_append, List.append_assoc] at reads
      exact reads

theorem IniText.Legible.reads {text : IniText} (legible : text.Legible named) :
    IniReads named (text.written ++ [newline]) text.stands := by
  cases text with
  | item i => exact IniItem.Legible.reads legible
  | comment pad text =>
      obtain ⟨spaces, c, first, start⟩ := legible
      obtain ⟨rest, rfl⟩ : ∃ rest, text = c :: rest := List.head?_eq_some_iff.mp first
      have visible : ∀ c ∈ iniStartCommentPrefixes, isspaceByte c = false := by decide
      unfold IniText.written
      rw [List.append_assoc]
      exact .comment spaces (visible c start) start

end Lines

/-! ## Files -/

section Files

variable {text : IniText} {texts : List IniText} {place : IniPlace} {lineno : Nat} {mark : List Byte}

theorem writeTexts_cons (text : IniText) (texts : List IniText) :
    writeTexts (text :: texts) = text.written ++ newline :: writeTexts texts := by
  unfold writeTexts
  rw [List.flatMap_cons, List.append_assoc]
  rfl

/-- A line of a file that does not begin like a mark is read whole. -/
theorem skipBom_of_ne {line : List Byte} (rest : List Byte)
    (begins : lineno = 1 → (line ++ rest).take 3 ≠ iniBom) :
    skipBom lineno line = line := by
  refine if_neg fun ⟨first, marked⟩ => begins first ?_
  have long : 3 ≤ line.length := by
    have three : (line.take 3).length = 3 := congrArg List.length marked
    rw [List.length_take] at three
    omega
  rw [List.take_append_of_le_length long]
  exact marked

/-- A line that was written is read for what it is, whatever follows. -/
theorem IniText.Writable.means {events : List IniEvent} {line : List Byte} (mark : List Byte)
    (writable : text.Writable (place.prevName ≠ []))
    (skips : skipBom (lineno + 1) (cstr line) = text.written ++ [newline])
    (rest : IniMeans (text.stands.move place) (lineno + 1) ((streamLines (writeTexts texts)).map cstr)
      events)
    (lines : streamLines (mark ++ writeTexts (text :: texts)) = line :: streamLines (writeTexts texts)) :
    IniMeans place lineno ((streamLines (mark ++ writeTexts (text :: texts))).map cstr)
      (text.stands.events place (lineno + 1) ++ events) := by
  rw [lines, List.map_cons]
  refine .item ?_ rest
  rw [skips]
  exact writable.legible.reads

theorem IniText.Writable.plain_line {named : Prop} (writable : text.Writable named) :
    newline ∉ text.written ∧ ∀ c ∈ text.written ++ [newline], c ≠ 0 := by
  refine ⟨fun member => (writable.plain newline member).2 rfl, fun c member => ?_⟩
  rcases List.mem_append.mp member with inside | last
  · exact (writable.plain c inside).1
  · rw [List.mem_singleton.mp last]
    decide

theorem textsEvents_means (writable : AllWritable place texts)
    (begins : lineno = 0 → (writeTexts texts).take 3 ≠ iniBom) :
    IniMeans place lineno ((streamLines (writeTexts texts)).map cstr)
      (textsEvents place lineno texts) := by
  induction texts generalizing place lineno with
  | nil =>
      rw [writeTexts, List.flatMap_nil, streamLines_nil]
      exact .nil
  | cons text texts ih =>
      obtain ⟨first, others⟩ := writable
      obtain ⟨one_line, no_nul⟩ := first.plain_line
      have later (zero : lineno + 1 = 0) : (writeTexts texts).take 3 ≠ iniBom :=
        absurd zero (Nat.succ_ne_zero lineno)
      have lines := streamLines_line (writeTexts texts) one_line first.fits
      rw [writeTexts_cons] at begins
      rw [← writeTexts_cons] at lines
      refine first.means [] ?_ (ih others later) lines
      rw [cstr_of_plain no_nul]
      refine skipBom_of_ne (writeTexts texts) fun one => ?_
      rw [List.append_assoc]
      exact begins (Nat.succ.inj one)

theorem textsEvents_means_marked (writable : AllWritable .start texts) (marked : Marked mark texts) :
    IniMeans .start 0 ((streamLines (mark ++ writeTexts texts)).map cstr)
      (textsEvents .start 0 texts) := by
  rcases marked with ⟨rfl, text, first, room⟩ | ⟨rfl, begins⟩
  · obtain ⟨texts', rfl⟩ : ∃ texts', texts = text :: texts' := List.head?_eq_some_iff.mp first
    obtain ⟨here, others⟩ := writable
    obtain ⟨one_line, no_nul⟩ := here.plain_line
    have later (zero : 1 = 0) : (writeTexts texts').take 3 ≠ iniBom := absurd zero Nat.one_ne_zero
    have one_line' : newline ∉ iniBom ++ text.written := by
      rw [List.mem_append, not_or]
      exact ⟨by decide, one_line⟩
    have lines := streamLines_line (writeTexts texts') one_line' (by
      rw [List.length_append]
      exact Nat.add_le_add_left room 3)
    rw [List.append_assoc, ← writeTexts_cons] at lines
    refine here.means iniBom ?_ (textsEvents_means others later) lines
    rw [List.append_assoc, cstr_of_plain]
    · exact if_pos ⟨rfl, rfl⟩
    · intro c member
      rcases List.mem_append.mp member with bom | inside
      · exact ne_of_mem_of_not_mem bom (by decide)
      · exact no_nul c inside
  · exact textsEvents_means writable fun _ => begins

end Files

/-- A comment, a directive that goes on in the next line but one, a section, and a directive in
it. -/
def someTexts : List IniText :=
  [.comment [] (literal [';', '=']), .item (.directive (literal ['a']) (literal ['b', ' ', '='])),
    .comment [space] (literal ['#']), .item (.continuation (literal ['[', 'c'])), .item .nothing,
    .item (.sectionStart (literal ['d'])), .item (.directive (literal ['a']) [])]

/-- A handler that keeps the calls, and rejects the one of line 4. -/
def keepCalls : IniHandler (List (List Byte × List Byte × List Byte)) :=
  fun calls sectionName name value lineno => (calls ++ [(sectionName, name, value)], lineno ≠ 4)

end IpxWrapper
