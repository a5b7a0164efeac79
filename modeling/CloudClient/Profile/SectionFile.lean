import CloudClient.Bytes.Portion
import CloudClient.OrderedMap
import CloudClient.Text.Case

/-!
# Section files

Profiles and credentials are kept in files of named sections with options.
The format is read a line at a time.

* A line that begins with `#` or `;` is a comment.
* A line indented deeper than the line its option stands on continues the
  value of that option. Blank lines belong to the value too, but those at its
  end are dropped.
* A header is a name in brackets, which reach to the last closing bracket of
  the line.
* An option is a name, an equals sign or a colon, and a value. Names are
  compared in lower case.

The options of the section `DEFAULT` are seen in every other section, unless
it has them itself (`SectionFile.options`).

Three faults stop the reading where they occur: an option before the first
header, a repeated section, and a repeated option. A line that is none of the
above is noted and read over; it counts only if nothing worse follows, so
`unparsable` comes last of the four.

Octets that are no text are worse, but they are come upon in their turn: what
stops the reading in a line before them is what the file is refused for
(`SectionFile.readOctets`). Which files are read does not depend on that: those
whose octets are the text of one (`readOctets_eq_ok_iff`).
-/

namespace CloudClient

/-- Why a section file is refused. -/
inductive SectionFault where
  /-- The file has an option before its first header. -/
  | missingHeader
  /-- A section occurs twice. -/
  | duplicateSection
  /-- An option occurs twice in a section. -/
  | duplicateOption
  /-- Some line is neither header nor option. -/
  | unparsable
  deriving DecidableEq, Repr

/-- The options of a section. -/
abbrev SectionOptions := OrderedMap String String

/-- The contents of a section file. -/
structure SectionFile where
  /-- The options of the section that all others see. -/
  defaults : SectionOptions
  /-- The other sections in the order of their headers. -/
  sections : OrderedMap String SectionOptions

namespace SectionFile

/-- The name of the section that all others see. -/
def defaultName : String := "DEFAULT"

/-- The file without sections. -/
def empty : SectionFile := ⟨.empty, .empty⟩

/-- The names of the sections, in the order of their headers. -/
def names (f : SectionFile) : List String := f.sections.keys

/-- The options that are seen in a section: the defaults, then its own over
them. -/
def options (f : SectionFile) (own : SectionOptions) : SectionOptions :=
  f.defaults.putAll own.entries

/-! ## Lines -/

/-- What a line that is no comment and not blank says. -/
inductive Line where
  /-- A section begins. -/
  | header (name : String)
  /-- An option with its value; the name may be empty, which is a fault. -/
  | option (name value : String)
  /-- Neither. -/
  | other
  deriving DecidableEq, Repr

/-- The name between the opening bracket and the last closing one. -/
def headerName? : List Char → Option (List Char)
  | '[' :: cs =>
    let name := (Text.dropEndWhile (· ≠ ']') cs).dropLast
    if name.isEmpty then none else some name
  | _ => none

/-- Whether a character ends the name of an option. -/
def isDelimiter (c : Char) : Bool := c == '=' || c == ':'

/-- What a trimmed line says. -/
def Line.read (cs : List Char) : Line :=
  match headerName? cs with
  | some name => .header (String.ofList name)
  | none =>
    match cs.dropWhile fun c => !isDelimiter c with
    | [] => .other
    | _ :: value =>
      let name := Text.dropEndWhile Text.isBlank (cs.takeWhile fun c => !isDelimiter c)
      .option (Text.lower (String.ofList name)) (Text.trim (String.ofList value))

/-! ## Reading -/

/-- The lines of one value, last line first. -/
abbrev ValueLines := List String

/-- What has been read so far. -/
structure Progress where
  /-- The sections with the lines of their values; the defaults among them. -/
  sections : OrderedMap String (OrderedMap String ValueLines)
  /-- The section that options go to. -/
  current : Option String
  /-- The option that further lines continue. -/
  open? : Option String
  /-- The indentation of the last header or option. -/
  indent : Nat
  /-- Whether a line was neither header nor option. -/
  noted : Bool

/-- The state before the first line. -/
def Progress.start : Progress := ⟨.empty, none, none, 0, false⟩

/-- The options read so far of a section. -/
def Progress.optionsOf (p : Progress) (name : String) : OrderedMap String ValueLines :=
  (p.sections.find? name).getD .empty

/-- The lines of an option set in a section. -/
def Progress.set (p : Progress) (name option : String) (lines : ValueLines) : Progress :=
  { p with sections := p.sections.put name ((p.optionsOf name).put option lines) }

/-- One more line for the value that is open. -/
def Progress.extend (p : Progress) (line : String) : Progress :=
  match p.current, p.open? with
  | some name, some option =>
    p.set name option (line :: ((p.optionsOf name).find? option).getD [])
  | _, _ => p

/-- A header begins a section. The defaults may be begun again, other
sections not. -/
def Progress.header (p : Progress) (name : String) : Except SectionFault Progress :=
  if p.sections.has name then
    if name = defaultName then .ok { p with current := some name, open? := none }
    else .error .duplicateSection
  else
    .ok { p with sections := p.sections.put name .empty, current := some name, open? := none }

/-- An option of the current section. -/
def Progress.option (p : Progress) (name value : String) : Except SectionFault Progress :=
  match p.current with
  | none => .error .missingHeader
  | some current =>
    if (p.optionsOf current).has name then .error .duplicateOption
    else
      let p := p.set current name [value]
      if name = "" then .ok { p with open? := none, noted := true }
      else .ok { p with open? := some name }

/-- What a header, an option or another line leads to. -/
def Progress.take (p : Progress) : Line → Except SectionFault Progress
  | .header name => p.header name
  | .option name value => p.option name value
  | .other => if p.current.isNone then .error .missingHeader else .ok { p with noted := true }

/-- Whether a trimmed line is a comment. -/
def isComment (cs : List Char) : Bool := cs.head? == some '#' || cs.head? == some ';'

/-- What one line leads to. -/
def Progress.line (p : Progress) (cs : List Char) : Except SectionFault Progress :=
  let value := Text.trimList cs
  let indent := (cs.takeWhile Text.isBlank).length
  if isComment value then .ok p
  else if value.isEmpty then .ok (p.extend "")
  else if p.open?.isSome && decide (p.indent < indent) then .ok (p.extend (String.ofList value))
  else ({ p with indent := indent }).take (Line.read value)

/-- The value of an option: its lines one below the other, without blanks at
the end. -/
def joinLines (lines : ValueLines) : String :=
  String.ofList (Text.dropEndWhile Text.isBlank (Text.joinWith "\n" lines.reverse).toList)

/-- The options of a section with their values put together. -/
def finishOptions (options : OrderedMap String ValueLines) : SectionOptions :=
  .ofList (options.entries.map fun o => (o.1, joinLines o.2))

/-- The file that has been read. -/
def Progress.finish (p : Progress) : SectionFile :=
  ⟨finishOptions (p.optionsOf defaultName),
    .ofList ((p.sections.erase defaultName).entries.map fun s => (s.1, finishOptions s.2))⟩

/-- The text with every line end a line feed: a carriage return ends a line
too, alone or with the line feed after it. -/
def unifyLineEnds : List Char → List Char
  | [] => []
  | '\r' :: '\n' :: cs => '\n' :: unifyLineEnds cs
  | '\r' :: cs => '\n' :: unifyLineEnds cs
  | c :: cs => c :: unifyLineEnds cs

/-- The lines of a file. -/
def lines (cs : List Char) : List (List Char) := Text.cut '\n' (unifyLineEnds cs)

/-- The lines of a file that have their end before its text breaks off. A
carriage return at the break ends no line yet, since a line feed may belong to
it. -/
def endedLines (cs : List Char) : List (List Char) :=
  (lines (if cs.getLast? = some '\r' then cs.dropLast else cs)).dropLast

/-- What lines from the first one on lead to. -/
def Progress.ofLines (ls : List (List Char)) : Except SectionFault Progress :=
  ls.foldlM Progress.line Progress.start

/-- The file at its end, unless a line of it was noted. -/
def Progress.settle (p : Progress) : Except SectionFault SectionFile :=
  if p.noted then .error .unparsable else .ok p.finish

/-- The section file that a row of characters is. -/
def readChars (cs : List Char) : Except SectionFault SectionFile :=
  match Progress.ofLines (lines cs) with
  | .error fault => .error fault
  | .ok p => p.settle

/-- Why octets are not read as a section file. -/
inductive OctetsFault where
  /-- Octets that are no text are come upon. -/
  | undecodable
  /-- The file is refused before that, or is a text. -/
  | refused (fault : SectionFault)
  deriving DecidableEq, Repr

/-- The section file that octets are. -/
def readOctets (octets : Octets) : Except OctetsFault SectionFile :=
  let file := Utf8.intake octets
  if file.whole then (readChars file.chars).mapError .refused
  else match Progress.ofLines (endedLines file.chars) with
    | .error fault => .error (.refused fault)
    | .ok _ => .error .undecodable

variable {octets : Octets} {file : SectionFile}

/-- A text is read as that text, wherever its portions end. -/
theorem readOctets_of_decode? {s : String} (h : Utf8.decode? octets = some s) :
    readOctets octets = (readChars s.toList).mapError .refused := by
  rw [readOctets, Utf8.intake_eq_iff.2 h]
  rfl

/-- **Octets are a section file just when they are a text that is one.** -/
theorem readOctets_eq_ok_iff :
    readOctets octets = .ok file
      ↔ ∃ s, Utf8.decode? octets = some s ∧ readChars s.toList = .ok file := by
  constructor
  · intro h
    obtain ⟨s, hs⟩ : ∃ s, Utf8.decode? octets = some s := by
      unfold readOctets at h
      simp only at h
      split at h
      · rename_i hwhole
        refine ⟨String.ofList (Utf8.intake octets).chars, Utf8.intake_eq_iff.1 ?_⟩
        rw [String.toList_ofList, ← hwhole]
      · split at h <;> cases h
    refine ⟨s, hs, ?_⟩
    rw [readOctets_of_decode? hs] at h
    cases hread : readChars s.toList with
    | error fault =>
      rw [hread] at h
      cases h
    | ok file' =>
      rw [hread] at h
      cases h
      rfl
  · rintro ⟨s, hs, hread⟩
    rw [readOctets_of_decode? hs, hread]
    rfl

end SectionFile

end CloudClient
