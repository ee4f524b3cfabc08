import AiPowerGateway.Share.Api
import AiPowerGateway.Text.Utf8

/-!
# HTTP messages

Requests and responses with their bodies read in full.
-/

namespace AiPowerGateway.Share

inductive Method where
  | get
  | post
  | other (name : String)
  deriving DecidableEq, Repr

structure HttpRequest where
  method : Method
  path : String
  headers : HeaderMap
  body : List UInt8
  deriving DecidableEq, Repr

structure HttpResponse where
  status : Nat
  headers : HeaderMap
  body : List UInt8
  deriving DecidableEq, Repr

namespace HeaderMap

/-- The first value of a name, as text. -/
def text? (headers : HeaderMap) (name : String) : Option String :=
  (headers.get? name).bind toStr?

def remove (headers : HeaderMap) (name : String) : HeaderMap :=
  headers.filter fun header => header.1 ≠ name

/-- Every name once, with its first value. -/
def firstValues : HeaderMap → HeaderMap
  | [] => []
  | header :: rest => header :: (firstValues rest).remove header.1

@[simp] theorem get?_cons (name key : String) (value : List UInt8) (rest : HeaderMap) :
    get? ((name, value) :: rest) key = if name = key then some value else get? rest key := by
  unfold get?
  by_cases same : name = key
  · simp [same]
  · simp [List.find?_cons_of_neg, same]

theorem get?_remove_ne {name other : String} (differ : other ≠ name) (headers : HeaderMap) :
    get? (headers.remove name) other = get? headers other := by
  induction headers with
  | nil => rfl
  | cons header rest ih =>
      obtain ⟨key, value⟩ := header
      by_cases own : key = name
      · have foreign : key ≠ other := fun same => differ (same.symm.trans own)
        rw [get?_cons, if_neg foreign, ← ih]
        simp [remove, own]
      · rw [get?_cons, ← ih]
        simp [remove, own]

/-- The text of a header value has the bytes of the value. -/
theorem utf8_of_toStr? {value : List UInt8} {text : String} (read : toStr? value = some text) :
    Text.utf8 text = value := by
  unfold toStr? at read
  split at read
  · rename_i visible
    rw [← Option.some.inj read]
    apply Text.utf8_ascii
    intro byte mem
    have shown := List.all_eq_true.mp visible byte mem
    rw [Bool.or_eq_true, Bool.and_eq_true, decide_eq_true_eq, decide_eq_true_eq,
      decide_eq_true_eq] at shown
    rcases shown with ⟨-, below⟩ | rfl
    · exact UInt8.lt_trans below (by decide)
    · decide
  · cases read

end HeaderMap

/-- The token depends on its two headers. -/
theorem bearerToken_congr {first second : HeaderMap}
    (authorization : first.get? "authorization" = second.get? "authorization")
    (apiKey : first.get? "x-api-key" = second.get? "x-api-key") :
    bearerToken first = bearerToken second := by
  unfold bearerToken
  rw [authorization, apiKey]

end AiPowerGateway.Share
