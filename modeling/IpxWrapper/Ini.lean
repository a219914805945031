import IpxWrapper.Base.Bytes
import IpxWrapper.Base.Cut

/-!
# The parser of `ipxwrapper.ini` (`inih/ini.c`)

The parser is built with its default options: continuation lines, a byte order mark and inline
comments are allowed, and a line is read into a buffer of 200 bytes. It goes on after an error,
and returns the number of the line that has the first.
-/

namespace IpxWrapper

open Base

/-! ## Strings -/

/-- A string literal of the source. -/
def literal (chars : List Char) : List Byte := chars.map Char.toUInt8

def semicolon : Byte := 59

def newline : Byte := 10

/-- `isspace`, of an `unsigned char`. -/
def isspaceByte (c : Byte) : Bool := c = 32 || 9 ≤ c && c ≤ 13

/-- The C string at the start of a buffer. -/
def cstr (buffer : List Byte) : List Byte := buffer.takeWhile (· ≠ 0)

/-- `ini_rstrip`. -/
def iniRstrip (s : List Byte) : List Byte := s.rdropWhile isspaceByte

/-- `ini_lskip`. -/
def iniLskip (s : List Byte) : List Byte := s.dropWhile isspaceByte

/-- `ini_find_chars_or_comment`: what is in front of the pointer it returns, and what is there.
There are no `chars` where the source has `NULL`. -/
def iniFindCharsOrComment (chars : List Byte) (wasSpace : Bool) : List Byte → List Byte × List Byte
  | [] => ([], [])
  | c :: s =>
      if c ∈ chars ∨ wasSpace ∧ c = semicolon then
        ([], c :: s)
      else
        let (front, rest) := iniFindCharsOrComment chars (isspaceByte c) s
        (c :: front, rest)

/-- `ini_strncpy0`. -/
def iniStrncpy0 (src : List Byte) (size : Nat) : List Byte := src.take (size - 1)

/-! ## Lines -/

/-- `INI_MAX_LINE`. -/
def iniMaxLine : Nat := 200

/-- `MAX_SECTION` and `MAX_NAME`. -/
def iniMaxName : Nat := 50

/-- `INI_START_COMMENT_PREFIXES`. -/
def iniStartCommentPrefixes : List Byte := literal [';', '#']

/-- `ini_handler`: the user data after the call, and whether it returned nonzero. -/
abbrev IniHandler (σ : Type) :=
  σ → (sectionName name value : List Byte) → (lineno : Nat) → σ × Bool

/-- The variables of `ini_parse_stream` that outlast a line. -/
structure IniState (σ : Type) where
  user : σ
  sectionName : List Byte
  prevName : List Byte
  error : Nat

section Lines

variable {σ : Type}

def IniState.init (user : σ) : IniState σ := ⟨user, [], [], 0⟩

/-- The line has an error; the first one is kept. -/
def IniState.fail (lineno : Nat) (st : IniState σ) : IniState σ :=
  { st with error := if st.error = 0 then lineno else st.error }

/-- `HANDLER`. -/
def IniState.call (handler : IniHandler σ) (lineno : Nat) (name value : List Byte)
    (st : IniState σ) : IniState σ :=
  let (user, ok) := handler st.user st.sectionName name value lineno
  let st := { st with user := user }
  if ok then st else st.fail lineno

/-- The byte order mark is skipped in the first line. -/
def skipBom (lineno : Nat) (line : List Byte) : List Byte :=
  if lineno = 1 ∧ line.take 3 = [0xEF, 0xBB, 0xBF] then line.drop 3 else line

/-- The body of the loop. -/
def iniLine (handler : IniHandler σ) (lineno : Nat) (line : List Byte) (st : IniState σ) :
    IniState σ :=
  let body := skipBom lineno line
  let start := iniLskip (iniRstrip body)
  -- `start - line`
  let indent := (line.length - body.length) + ((iniRstrip body).length - start.length)
  -- at the end of the string `strchr` finds the NUL
  if start.head?.all (· ∈ iniStartCommentPrefixes) then
    st
  else if st.prevName ≠ [] ∧ 0 < indent then
    let (value, _) := iniFindCharsOrComment [] false start
    st.call handler lineno st.prevName (iniRstrip value)
  else if start.head? = some '['.toUInt8 then
    let (name, rest) := iniFindCharsOrComment (literal [']']) false start.tail
    if rest.head? = some ']'.toUInt8 then
      { st with sectionName := iniStrncpy0 name iniMaxName, prevName := [] }
    else
      st.fail lineno
  else
    let (name, rest) := iniFindCharsOrComment (literal ['=', ':']) false start
    if rest.head? = some '='.toUInt8 ∨ rest.head? = some ':'.toUInt8 then
      let name := iniRstrip name
      let (value, _) := iniFindCharsOrComment [] false rest.tail
      let value := iniRstrip (iniLskip value)
      { st with prevName := iniStrncpy0 name iniMaxName }.call handler lineno name value
    else
      st.fail lineno

/-! ## Streams -/

/-- At most `n` bytes, up to a newline; and the rest. -/
def readLine : Nat → List Byte → List Byte × List Byte
  | 0, stream => ([], stream)
  | _, [] => ([], [])
  | n + 1, c :: stream =>
      if c = newline then
        ([c], stream)
      else
        let (line, rest) := readLine n stream
        (c :: line, rest)

/-- `fgets`. -/
def fgets (size : Nat) (stream : List Byte) : Option (List Byte × List Byte) :=
  if stream = [] then none else some (readLine (size - 1) stream)

theorem length_readLine (n : Nat) (stream : List Byte) :
    (readLine n stream).1.length + (readLine n stream).2.length = stream.length := by
  induction n generalizing stream with
  | zero =>
      unfold readLine
      exact Nat.zero_add _
  | succ n ih =>
      cases stream with
      | nil => rfl
      | cons c stream =>
          unfold readLine
          split
          · exact Nat.add_comm ..
          · have rest := ih stream
            dsimp only
            rw [List.length_cons, List.length_cons]
            omega

theorem readLine_shorter {n : Nat} {stream : List Byte} (some_room : 0 < n) (more : stream ≠ []) :
    (readLine n stream).2.length < stream.length := by
  have whole := length_readLine n stream
  have read : 0 < (readLine n stream).1.length := by
    cases n with
    | zero => exact absurd some_room (Nat.lt_irrefl 0)
    | succ n =>
        cases stream with
        | nil => exact absurd rfl more
        | cons c stream =>
            unfold readLine
            split <;> simp
  omega

theorem fgets_shorter {size : Nat} {stream line rest : List Byte} (room : 1 < size)
    (read : fgets size stream = some (line, rest)) : rest.length < stream.length := by
  unfold fgets at read
  split at read
  · cases read
  · rename_i more
    have shorter := readLine_shorter (Nat.sub_pos_of_lt room) more
    rwa [Option.some.inj read] at shorter

/-- `ini_parse_stream`, from the line behind line `lineno` on. -/
def iniParseLines (handler : IniHandler σ) (lineno : Nat) (stream : List Byte) (st : IniState σ) :
    IniState σ :=
  match read : fgets iniMaxLine stream with
  | none => st
  | some (line, rest) =>
      have := fgets_shorter (by decide : 1 < iniMaxLine) read
      iniParseLines handler (lineno + 1) rest (iniLine handler (lineno + 1) (cstr line) st)
termination_by stream.length

/-- `ini_parse_file`: the user data, and what it returns. -/
def iniParseFile (handler : IniHandler σ) (stream : List Byte) (user : σ) : σ × Nat :=
  let st := iniParseLines handler 0 stream (.init user)
  (st.user, st.error)

end Lines

end IpxWrapper
