import AiPowerGateway.Text.Basic

/-!
# Server-sent event frames

The text of an event stream and the client that reads it back.  A frame is an
optional `event:` line, a `data:` line and an empty line; the client collects
field lines and dispatches an event at the empty line.
-/

namespace AiPowerGateway.Sse

structure Event where
  name : String
  data : String
  deriving DecidableEq, Repr

/-! ## Writing frames -/

/-- The text of a frame that names its event. -/
def namedFrame (name data : String) : String :=
  "event: " ++ name ++ "\ndata: " ++ data ++ "\n\n"

/-- The text of a frame that carries data only. -/
def dataFrame (data : String) : String := "data: " ++ data ++ "\n\n"

/-! ## Reading frames -/

/-- A field line as its name and its value; one space after the colon is dropped. -/
def field (line : String) : String × String :=
  let name := line.toList.takeWhile (· ≠ ':')
  let value := (line.toList.dropWhile (· ≠ ':')).drop 1
  (String.ofList name, String.ofList (if value.head? = some ' ' then value.drop 1 else value))

/-- The fields collected since the last dispatch. -/
structure Pending where
  name : String := ""
  data : Option String := none

def Pending.line (pending : Pending) (line : String) : Pending :=
  match field line with
  | ("event", value) => { pending with name := value }
  | ("data", value) =>
      { pending with data := some (match pending.data with
          | none => value
          | some earlier => earlier ++ "\n" ++ value) }
  | _ => pending

/-- Dispatch at each empty line; fields after the last empty line are discarded. -/
def dispatch (pending : Pending) : List String → List Event
  | [] => []
  | line :: rest =>
      if line = "" then
        match pending.data with
        | none => dispatch {} rest
        | some data => ⟨pending.name, data⟩ :: dispatch {} rest
      else dispatch (pending.line line) rest

def decode (text : String) : List Event := dispatch {} (Text.lines text)

/-! ## Reading what was written -/

/-- A text that fits on one line of a frame. -/
def OneLine (text : String) : Prop := '\n' ∉ text.toList ∧ '\r' ∉ text.toList

instance (text : String) : Decidable (OneLine text) := inferInstanceAs (Decidable (_ ∧ _))

theorem OneLine.append {first second : String} (left : OneLine first) (right : OneLine second) :
    OneLine (first ++ second) := by
  simp only [OneLine, String.toList_append, List.mem_append, not_or]
  exact ⟨⟨left.1, right.1⟩, ⟨left.2, right.2⟩⟩

theorem OneLine.lines_append {line : String} (one : OneLine line) (rest : String) :
    Text.lines (line ++ "\n" ++ rest) = line :: Text.lines rest :=
  Text.lines_append one.1 one.2 rest

theorem oneLine_empty : OneLine "" := by decide

theorem field_event (name : String) : field ("event: " ++ name) = ("event", name) := by
  simp [field, String.toList_append]

theorem field_data (data : String) : field ("data: " ++ data) = ("data", data) := by
  simp [field, String.toList_append]

theorem decode_namedFrame {name data : String} (oneName : OneLine name) (oneData : OneLine data)
    (rest : String) :
    decode (namedFrame name data ++ rest) = ⟨name, data⟩ :: decode rest := by
  have first : OneLine ("event: " ++ name) := OneLine.append (by decide) oneName
  have second : OneLine ("data: " ++ data) := OneLine.append (by decide) oneData
  have text : namedFrame name data ++ rest =
      "event: " ++ name ++ "\n" ++ ("data: " ++ data ++ "\n" ++ ("" ++ "\n" ++ rest)) := by
    simp [namedFrame, ← String.toList_inj]
  rw [decode, text, first.lines_append, second.lines_append,
    oneLine_empty.lines_append]
  simp [dispatch, Pending.line, field_event, field_data, decode, String.append_eq_empty_iff]

theorem lines_dataFrame {data : String} (oneData : OneLine data) (rest : String) :
    Text.lines (dataFrame data ++ rest) = ("data: " ++ data) :: "" :: Text.lines rest := by
  have first : OneLine ("data: " ++ data) := OneLine.append (by decide) oneData
  have text : dataFrame data ++ rest =
      "data: " ++ data ++ "\n" ++ ("" ++ "\n" ++ rest) := by
    simp [dataFrame, ← String.toList_inj]
  rw [text, first.lines_append, oneLine_empty.lines_append]

theorem decode_dataFrame {data : String} (oneData : OneLine data) (rest : String) :
    decode (dataFrame data ++ rest) = ⟨"", data⟩ :: decode rest := by
  rw [decode, lines_dataFrame oneData]
  simp [dispatch, Pending.line, field_data, decode, String.append_eq_empty_iff]

end AiPowerGateway.Sse
