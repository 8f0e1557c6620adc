import Handbook.Fault.Basic
import Handbook.Layout.Panel
import Handbook.Layout.StyledText
import Handbook.Text.TitleCase

/-!
# Drawing faults

A fault is drawn as a header that names the program, the code and the title, the
message below it, and a hint if there is one; or as a panel with the header in
its edge. Styles come from the palette of the fault's class, which the host can
change. A fault that is not colorful has no styles. Styles divide a line into parts,
which matters only where a cluster would reach from one part into the next.
-/

namespace Handbook

/-- The styles of errors. -/
def errorPalette : List (Text × Text) :=
  [("prog-name", "bold #E6E6F0"),
    ("code", "bold #00E5FF"),
    ("error-title", "bold #FF4DA6"),
    ("error-message", "#C8C8D0"),
    ("hint-arrow", "#9CE19C dim"),
    ("hint", "italic #9CE19C")]

/-- The styles of warnings. -/
def warningPalette : List (Text × Text) :=
  [("prog-name", "bold #E6E6F0"),
    ("code", "bold #FFB400"),
    ("warning-title", "bold #FFC2E0"),
    ("warning-message", "#D6D6DE"),
    ("hint-arrow", "#B8EFAF dim"),
    ("hint", "italic #B8EFAF")]

namespace FaultClass

/-- The styles of a class of faults. -/
def palette (kind : FaultClass) : List (Text × Text) :=
  if kind.isWarning then warningPalette else errorPalette

/-- The name of the title's style. -/
def titleStyle (kind : FaultClass) : Text :=
  if kind.isWarning then "warning-title" else "error-title"

/-- The name of the message's style. -/
def messageStyle (kind : FaultClass) : Text :=
  if kind.isWarning then "warning-message" else "error-message"

end FaultClass

/-- The styles of a host and a class of faults; those of the host come first. -/
def styleTable (host : Host) (kind : FaultClass) : Except Error (List (Text × Value)) :=
  match host.styles with
  | .dict entries =>
      .ok ((Value.dict entries).fields ++ kind.palette.map fun (name, style) => (name, .str style))
  | other => .error (.notCombinable "|" (Value.kind (.dict [])) other.kind)

/-- The style of a name in a table, the first one there is; an empty one if there is none. -/
def styleIn (table : List (Text × Value)) (name : Text) : Value :=
  match table.find? fun entry => entry.1 == name with
  | some entry => entry.2
  | none => .str []

/-- A fault ready to be written: its header, and the texts below it. -/
structure Drawing where
  framed : Bool
  header : StyledText
  body : List StyledText

namespace Drawing

/-- The lines of a drawing. -/
def lines (drawing : Drawing) : Except Error (List (List Text)) :=
  if drawing.framed then Layout.panel drawing.header drawing.body
  else Layout.bare (drawing.header :: drawing.body)

end Drawing

namespace Fault

/-- Whether a fault is drawn with styles. -/
def isColorful (fault : Fault) : Bool :=
  fault.options.colorful.truthy

/-- The style of a name for a fault; a fault that is not colorful has none. -/
def style (fault : Fault) (table : List (Text × Value)) (name : Text) : Value :=
  if fault.isColorful then styleIn table name else .str []

/-- A part of a drawing: nothing for a value that does not count, a styled text as it is in a
colorful fault, and else the value's characters in a style. -/
def part (fault : Fault) (value style : Value) : StyledText :=
  if !value.truthy then { plain := [] }
  else if !fault.isColorful then StyledText.ofText value.displayed
  else
    match value with
    | .styled plain own => StyledText.ofText plain own
    | other => StyledText.ofText other.displayed style

/-- The shown code: the label of a code, nothing for a value that does not count. -/
def codeValue (fault : Fault) (host : Host) : Except Error Value :=
  match fault.options.code with
  | .code code => .ok (.str (code.label host))
  | .value value =>
      if value.truthy then .error (.noAttribute value.kind "normalize") else .ok (.str [])

/-- A byte string in title case, ASCII letters only. -/
def titleBytes (bytes : List UInt8) : List UInt8 :=
  let characters := bytes.map fun byte =>
    if byte < 0x80 then Char.ofNat byte.toNat else Char.ofNat 0
  List.zipWith
    (fun byte character => if byte < 0x80 then UInt8.ofNat character.toNat else byte)
    bytes (Text.titleCase characters)

/-- The shown title, in title case. -/
def titleValue (fault : Fault) : Except Error Value :=
  match fault.options.title with
  | .str title => .ok (.str (Text.titleCase title))
  | .bytes title => .ok (.bytes (titleBytes title))
  | .bytearray title => .ok (.bytearray (titleBytes title))
  | other => .error (.noAttribute other.kind "title")

/-- The drawing of a fault. -/
def drawing (fault : Fault) (host : Host) : Except Error Drawing := do
  let style := fault.style (← styleTable host fault.kind)
  let code ← fault.codeValue host
  let title ← fault.titleValue
  let header := StyledText.assemble
    [{ plain := "[ " },
      fault.part fault.options.prog (style "prog-name"),
      { plain := " — " },
      fault.part code (style "code"),
      { plain := " | " },
      fault.part title (style fault.kind.titleStyle),
      { plain := " ]" }]
  let message := fault.part fault.messageValue (style fault.kind.messageStyle)
  let hint :=
    if fault.options.hint.truthy then
      [StyledText.assemble
        [fault.part (.str " → ") (style "hint-arrow"),
          fault.part fault.options.hint (style "hint")]]
    else []
  return { framed := fault.options.fancy.truthy, header, body := message :: hint }

end Fault
end Handbook
