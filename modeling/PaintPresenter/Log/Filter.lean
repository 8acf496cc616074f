import PaintPresenter.Log.Record
import PaintPresenter.Regex

/-!
# Log filters

A filter is a list of directives, written with commas between them, and perhaps a pattern for the
texts of records, written after a slash. A directive is a level, which holds for all targets, a
target, all of whose records pass, or `target=level`. A later directive takes the place of an
earlier one for the same target. Of the directives whose target starts a record's target the longest
decides; a record that none of them covers does not pass. Something that is no directive is
complained about and left out, and a filter without directives lets errors pass.
-/

namespace PaintPresenter

/-- How detailed records may be: up to a level, or none at all. -/
structure LogBound where
  most : Option LogLevel
  deriving DecidableEq, Repr

namespace LogBound

/-- Records of all levels. -/
def all : LogBound := ⟨some .trace⟩

/-- A level passes if it is no more detailed than the bound. -/
def allows (bound : LogBound) (level : LogLevel) : Bool :=
  bound.most.any fun most => level.rank ≤ most.rank

/-- Reads a level or `off`, in any case. -/
def ofText? (text : List Char) : Option LogBound :=
  let name := String.ofList (text.map Char.toUpper)
  if name = "OFF" then some ⟨none⟩ else (LogLevel.ofName? name).map fun level => ⟨some level⟩

end LogBound

/-- What may pass of the targets that start with `target`, or of all targets. -/
structure LogDirective where
  target : Option (List Char)
  bound : LogBound
  deriving DecidableEq, Repr

namespace LogDirective

/-- The directive covers records of a target. -/
def covers (d : LogDirective) (target : String) : Bool :=
  d.target.all fun start => start.isPrefixOf target.toList

/-- How long the start of a target is that the directive asks for. -/
def reach (d : LogDirective) : Nat := d.target.elim 0 List.length

end LogDirective

/-- What is wrong with a filter in writing. -/
inductive LogFilterComplaint
  | tooManyParts (filter : String)
  | noDirective (text : String)
  | badPattern (pattern : String) (reason : Regex.Error)
  deriving DecidableEq, Repr

namespace LogFilterComplaint

/-- The complaint in words. -/
def message : LogFilterComplaint → String
  | tooManyParts filter => s!"invalid logging spec '{filter}' (too many '/'s)"
  | noDirective text => s!"invalid logging spec '{text}'"
  | badPattern pattern reason =>
    let reason := reason.message pattern
    s!"invalid regex filter - {reason}"

/-- What is written about it: the part complained about has no effect. -/
def warning (c : LogFilterComplaint) : String := s!"warning: {c.message}, ignoring it"

end LogFilterComplaint

namespace LogDirective

/-- The characters up to the first separator, and those after it if there is one. -/
def cut (separator : Char) (text : List Char) : List Char × Option (List Char) :=
  match text.dropWhile (· ≠ separator) with
  | [] => (text, none)
  | _ :: after => (text.takeWhile (· ≠ separator), some after)

/-- Reads a directive that has no blanks around it. A target without a level, also with an empty
one, lets everything pass. -/
def ofText (text : List Char) : Except LogFilterComplaint LogDirective :=
  match cut '=' text with
  | (alone, none) =>
    match LogBound.ofText? alone with
    | some bound => .ok ⟨none, bound⟩
    | none => .ok ⟨some alone, .all⟩
  | (target, some level) =>
    if '=' ∈ level then .error (.noDirective (String.ofList text))
    else
      let level := Text.trim level
      if level.isEmpty then .ok ⟨some target, .all⟩
      else match LogBound.ofText? level with
        | some bound => .ok ⟨some target, bound⟩
        | none => .error (.noDirective (String.ofList level))

end LogDirective

/-- Which records are written. -/
structure LogFilter where
  directives : List LogDirective
  /-- What the text of a record has to contain. -/
  pattern : Option Regex := none
  deriving DecidableEq, Repr

/-- A filter as it was read, and what was left out. -/
structure LogFilterReading where
  filter : LogFilter
  complaints : List LogFilterComplaint := []
  deriving DecidableEq, Repr

namespace LogFilter

/-- Everything up to a level, whatever its target. -/
def upTo (level : LogLevel) : LogFilter := ⟨[⟨none, ⟨some level⟩⟩], none⟩

/-- Adds a directive, in place of one for the same target. -/
def insert (d : LogDirective) : List LogDirective → List LogDirective
  | [] => [d]
  | first :: later => if first.target = d.target then d :: later else first :: insert d later

/-- Reads directives with commas between them; errors pass if there are none. -/
def readDirectives (text : String) : List LogDirective × List LogFilterComplaint :=
  let items := (text.splitOn ",").map fun item => Text.trim item.toList
  let read := (items.filter (!·.isEmpty)).map LogDirective.ofText
  let directives := (read.filterMap Except.toOption).foldl (fun all d => insert d all) []
  let complaints := read.filterMap fun
    | .ok _ => none
    | .error c => some c
  (if directives.isEmpty then (upTo .error).directives else directives, complaints)

/-- Reads a filter. -/
def read (text : String) : LogFilterReading :=
  match text.splitOn "/" with
  | [directives] =>
    let (directives, complaints) := readDirectives directives
    ⟨⟨directives, none⟩, complaints⟩
  | [directives, pattern] =>
    let (directives, complaints) := readDirectives directives
    match Regex.ofText pattern with
    | .ok regex => ⟨⟨directives, some regex⟩, complaints⟩
    | .error reason => ⟨⟨directives, none⟩, complaints ++ [.badPattern pattern reason]⟩
  | _ => ⟨upTo .error, [.tooManyParts text]⟩

/-- The directive that decides for a target. -/
def decisive? (filter : LogFilter) (target : String) : Option LogDirective :=
  (filter.directives.filter (·.covers target)).foldl (fun best d =>
    match best with
    | some b => if b.reach ≤ d.reach then some d else some b
    | none => some d) none

/-- Whether a record is written. -/
def passes (filter : LogFilter) (record : LogRecord) : Bool :=
  (filter.decisive? record.target).any (·.bound.allows record.level) &&
    filter.pattern.all (·.occursIn record.text)

end LogFilter

end PaintPresenter
