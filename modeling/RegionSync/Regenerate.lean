import RegionSync.Declaration
import RegionSync.Protocol
import RegionSync.Text.Line

set_option autoImplicit false

/-! # Regenerating a file

A pass reads a file line by line. Before a region it copies the lines and collects the fields
that they declare; the line of a region is replaced by the region rendered from the fields
collected so far; after the last region it copies what is left. What the pass knows of the file
(`Scan`) never depends on what the region lines hold.
-/

namespace RegionSync

/-- The two kinds of fields. -/
inductive FieldKind where
  | state
  | prop
deriving DecidableEq

/-! ## Scanning -/

/-- What a pass knows after some lines. -/
structure Scan where
  /-- Where the pass stands. -/
  stage : Stage := .firstLine
  /-- The kind of field that the next line must declare, after an attribute. -/
  awaited : Option FieldKind := none
  /-- The props declared so far. -/
  props : List PropField := []
  /-- The states declared so far. -/
  states : List StateField := []
  /-- The advisories on `props`. -/
  advisories : List Advisory := []
deriving DecidableEq

/-- Why a pass stops before the end of the file. -/
inductive Halt where
  /-- The first line does not carry the header marker. -/
  | notAnnotated
  /-- The file is annotated but faulty. -/
  | faulty (fault : Fault)
deriving DecidableEq

/-- Byte order marks, which may stand before the header marker. -/
def byteOrderMark : Char := Char.ofNat 0xFEFF

/-- Whether a first line carries the header marker, byte order marks aside. -/
def Protocol.isHeader (protocol : Protocol) (line : List Char) : Bool :=
  Text.startsWith protocol.headerMarker.toList (line.dropWhile (· == byteOrderMark))

namespace Scan

/-- Reads a trimmed line while a marker is searched for. A line that must declare a field is never
looked at in any other way. -/
def read (scan : Scan) (protocol : Protocol) (number : Nat) (content : List Char) :
    Except Fault Scan :=
  match scan.awaited with
  | some .state =>
    match Declaration.readState number content with
    | .ok state => .ok { scan with awaited := none, states := scan.states ++ [state] }
    | .error fault => .error fault
  | some .prop =>
    match Declaration.readProp number content with
    | .ok prop =>
      .ok { scan with
        awaited := none
        props := scan.props ++ [prop]
        advisories := scan.advisories ++ (Advisory.check number prop).toList }
    | .error fault => .error fault
  | none =>
    if Text.startsWith protocol.generatedMarker.toList content then
      .ok { scan with stage := scan.stage.next }
    else if content = protocol.stateAttribute.toList then .ok { scan with awaited := some .state }
    else if content = protocol.propAttribute.toList then .ok { scan with awaited := some .prop }
    else .ok scan

/-- Takes one line, its ending included. -/
def step (scan : Scan) (protocol : Protocol) (number : Nat) (line : List Char) : Except Halt Scan :=
  match scan.stage with
  | .firstLine =>
    if protocol.isHeader line then .ok { scan with stage := scan.stage.next }
    else .error .notAnnotated
  | .waiting _ =>
    match scan.read protocol number (Text.trim line) with
    | .ok after => .ok after
    | .error fault => .error (.faulty fault)
  | .inside _ => .ok { scan with stage := scan.stage.next }
  | .tail => .ok scan

/-- The line that is written for a line read in this state: a region line keeps its ending and
nothing else, every other line is copied. -/
def emit (scan : Scan) (line : List Char) : List Char :=
  match scan.stage with
  | .inside region => region.render scan.states scan.props ++ Text.ending line
  | _ => line

end Scan

/-! ## The pass -/

/-- What a pass over an annotated file gives. -/
structure Regenerated where
  /-- The file with its regions brought up to date. -/
  text : String
  /-- The props, in the order of their declarations. -/
  props : List PropField
  /-- The states, in the order of their declarations. -/
  states : List StateField
  /-- Hints on props whose type is not recognised. -/
  advisories : List Advisory
  /-- Whether a region line was not up to date. -/
  changed : Bool
deriving DecidableEq

/-- The result of a pass over a file without faults. -/
inductive Regeneration where
  | notAnnotated
  | annotated (result : Regenerated)
deriving DecidableEq

/-- A pass that has read some lines. -/
structure Pass where
  scan : Scan := {}
  /-- The lines written, newest first. -/
  written : List (List Char) := []
  /-- Whether a line was written that differs from the line read. -/
  changed : Bool := false

namespace Pass

/-- Takes one line. -/
def step (pass : Pass) (protocol : Protocol) (number : Nat) (line : List Char) :
    Except Halt Pass :=
  match pass.scan.step protocol number line with
  | .ok scan =>
    let emitted := pass.scan.emit line
    .ok ⟨scan, emitted :: pass.written, pass.changed || emitted != line⟩
  | .error halt => .error halt

/-- Takes the lines of a file, the first of them numbered `number`. -/
def run (protocol : Protocol) : Nat → List (List Char) → Pass → Except Halt Pass
  | _, [], pass => .ok pass
  | number, line :: rest, pass =>
    match pass.step protocol number line with
    | .ok after => run protocol (number + 1) rest after
    | .error halt => .error halt

/-- Ends the pass at the end of the file. -/
def finish (pass : Pass) : Except Fault Regeneration :=
  match pass.scan.stage with
  | .firstLine => .ok .notAnnotated
  | .tail =>
    .ok (.annotated
      { text := String.ofList pass.written.reverse.flatten
        props := pass.scan.props
        states := pass.scan.states
        advisories := pass.scan.advisories
        changed := pass.changed })
  | stage => .error (.truncated stage)

end Pass

/-- Brings the generated regions of `text` up to date with its declarations. -/
def regenerate (protocol : Protocol) (text : String) : Except Fault Regeneration :=
  match Pass.run protocol 1 (Text.lines text.toList) {} with
  | .ok pass => pass.finish
  | .error .notAnnotated => .ok .notAnnotated
  | .error (.faulty fault) => .error fault

end RegionSync
