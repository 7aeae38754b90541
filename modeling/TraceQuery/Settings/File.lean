/-
  Reading a configuration file.

  The file is a JSON object with the sections `query` and `output`, each of them an object, an array
  of its settings in order, or null.  Settings may be null.  Unknown members of a section are passed
  over; unknown members of the file are kept, the last of a name in the place of the first.

  A setting that is null, a section that is null and one that is absent are all the same in the end:
  the file says nothing about the setting.  A known name that comes twice is an error even so.

  Mathlib-free.
-/
import TraceQuery.Json.Reading
import TraceQuery.Settings.Layers

namespace TraceQuery

open TraceQuery.Json (Node Value ReadError Document once maxDepth)

/-! ## Sections -/

/-- The `query` section of which some keys have been read. -/
structure QueryDraft where
  defaultPageSize : Option (Option Nat)
  maxPageSize : Option (Option Nat)
  maxFilters : Option (Option Nat)

/-- A page size or null. -/
def readPageSize : Node → Except ReadError (Option Nat) := Node.readOptional (Node.readCount .count)

/-- A number of filters or null; other bounds hold for it than for page sizes. -/
def readFilterCount : Node → Except ReadError (Option Nat) := Node.readOptional (Node.readCount .size)

/-- A flag or null. -/
def readFlag : Node → Except ReadError (Option Bool) := Node.readOptional Node.readBool

/-- Takes in one member of the `query` section. -/
def QueryDraft.put (d : QueryDraft) (key : String) (n : Node) : Except ReadError QueryDraft :=
  match key with
  | "default_page_size" => do
    return { d with defaultPageSize := ← once d.defaultPageSize key (readPageSize n) }
  | "max_page_size" => do return { d with maxPageSize := ← once d.maxPageSize key (readPageSize n) }
  | "max_filters" => do return { d with maxFilters := ← once d.maxFilters key (readFilterCount n) }
  | _ => do
    n.skip
    return d

/-- The `query` section, as an object or by position.  An array must have all three settings. -/
def QuerySection.ofNode : Node → Except ReadError QuerySection
  | .object members closed => do
    let d ← Node.readMembers QueryDraft.put closed ⟨none, none, none⟩ members
    return ⟨d.defaultPageSize.join, d.maxPageSize.join, d.maxFilters.join⟩
  | .array items closed => do
    let (n, rest) ← Node.nextItem .querySection 0 closed items
    let defaultPageSize ← readPageSize n
    let (n, rest) ← Node.nextItem .querySection 1 closed rest
    let maxPageSize ← readPageSize n
    let (n, rest) ← Node.nextItem .querySection 2 closed rest
    let maxFilters ← readFilterCount n
    Node.endOfItems (.text 2) items.length closed rest
    return ⟨defaultPageSize, maxPageSize, maxFilters⟩
  | n => .error (n.mismatch (.record .querySection))

/-- Takes in one member of the `output` section. -/
def OutputSection.put (d : Option (Option Bool)) (key : String) (n : Node) :
    Except ReadError (Option (Option Bool)) :=
  match key with
  | "pretty" => once d key (readFlag n)
  | _ => do
    n.skip
    return d

/-- The `output` section, as an object or by position. -/
def OutputSection.ofNode : Node → Except ReadError OutputSection
  | .object members closed => do
    let pretty ← Node.readMembers OutputSection.put closed none members
    return ⟨pretty.join⟩
  | .array items closed => do
    let (n, rest) ← Node.nextItem .outputSection 0 closed items
    let pretty ← readFlag n
    Node.endOfItems (.text 2) items.length closed rest
    return ⟨pretty⟩
  | n => .error (n.mismatch (.record .outputSection))

/-! ## The file -/

/-- A file of which some members have been read. -/
structure ConfigDraft where
  query : Option (Option QuerySection)
  output : Option (Option OutputSection)
  extra : List (String × Value)

/-- Takes in one member of a file: a section, or an extra member, which is kept as it is. -/
def ConfigDraft.put (d : ConfigDraft) (key : String) (n : Node) : Except ReadError ConfigDraft :=
  match key with
  | "query" => do
    return { d with query := ← once d.query key (n.readOptional QuerySection.ofNode) }
  | "output" => do
    return { d with output := ← once d.output key (n.readOptional OutputSection.ofNode) }
  | _ =>
    -- one level of nesting is spent on the file itself
    match n.toValue? (maxDepth - 1) with
    | some v => .ok { d with extra := Json.setMember key v d.extra }
    | none => .error .malformed

/-- The file in a node, which must be an object. -/
def ConfigFile.ofNode : Node → Except ReadError ConfigFile
  | .object members closed => do
    let d ← Node.readMembers ConfigDraft.put closed ⟨none, none, []⟩ members
    return ⟨d.query.join, d.output.join, d.extra⟩
  | n => .error (n.mismatch (.record .configFile))

/-- The configuration file in a text. -/
def ConfigFile.ofText (text : String) : Except ReadError ConfigFile :=
  (Document.ofText text).read ConfigFile.ofNode

end TraceQuery
