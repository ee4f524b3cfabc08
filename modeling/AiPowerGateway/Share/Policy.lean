import AiPowerGateway.Share.Host

/-!
# The load policy

The red lines on what is sent upstream: texts of a request that name mining or
deepfake work are refused.
-/

namespace AiPowerGateway.Share

inductive PolicyCategory where
  | mining
  | deepfake
  deriving DecidableEq, Repr

def PolicyCategory.asStr : PolicyCategory → String
  | .mining => "mining"
  | .deepfake => "deepfake"

/-- A category with its terms, all in lower case. -/
structure PolicyRule where
  category : PolicyCategory
  terms : List String

def policyRules : List PolicyRule := [
  { category := .mining
    terms := ["挖矿木马", "挖矿脚本", "挖矿程序", "挖矿软件", "矿池", "矿机", "挖币",
      "xmrig", "ethminer", "teamtredminer", "mining pool", "cryptomining",
      "crypto miner", "monero miner", "miner program", "cryptocurrency miner"] },
  { category := .deepfake
    terms := ["换脸", "伪造视频", "伪造人脸", "伪造语音", "语音克隆", "音色克隆",
      "变声冒充", "人脸替换",
      "deepfake", "deep fake", "deepfacelab", "face swap", "face-swap",
      "voice clone", "voice cloning", "face swap video", "deepfake video"] }]

/-- The category of the first rule with a term in the lower-cased text. -/
def detect (host : Host) (text : String) : Option PolicyCategory :=
  if text = "" then none
  else
    let lower := host.toLowercase text
    (policyRules.find? fun rule => rule.terms.any fun term => Text.contains lower term).map
      PolicyRule.category

/-! ## The text of a request -/

/-- The `text` members of an array of blocks. -/
def blockTexts (blocks : List Json) : List String :=
  blocks.filterMap fun block => block.text? "text"

/-- A text, or the texts of an array of blocks. -/
def contentTexts : Option Json → List String
  | some (.str text) => [text]
  | some (.arr blocks) => blockTexts blocks
  | _ => []

/-- The description of a tool, and that of its function. -/
def toolTexts (tool : Json) : List String :=
  (tool.text? "description").toList ++
    ((tool.get? "function").bind fun function => function.text? "description").toList

/-- The elements of an array member; nothing when there is no such member. -/
def arrayField (value : Json) (key : String) : List Json :=
  ((value.get? key).bind Json.asArray?).getD []

/-- The system text, the message texts and the tool descriptions, one per line. -/
def extractRequestText (body : Json) : String :=
  Text.joinLines (contentTexts (body.get? "system") ++
    (arrayField body "messages").flatMap (fun message => contentTexts (message.get? "content")) ++
    (arrayField body "tools").flatMap toolTexts)

/-! ## The service -/

/-- The switch of the policy and its hit counters. -/
structure LoadPolicy where
  enabled : Bool := true
  miningHits : UInt64 := 0
  deepfakeHits : UInt64 := 0
  deriving DecidableEq, Repr

namespace LoadPolicy

def count (policy : LoadPolicy) : PolicyCategory → LoadPolicy
  | .mining => { policy with miningHits := policy.miningHits + 1 }
  | .deepfake => { policy with deepfakeHits := policy.deepfakeHits + 1 }

/-- The verdict on a text, with the policy after counting it. -/
def check (host : Host) (policy : LoadPolicy) (text : String) :
    Option PolicyCategory × LoadPolicy :=
  if policy.enabled then
    match detect host text with
    | some category => (some category, policy.count category)
    | none => (none, policy)
  else (none, policy)

/-- A text passes when the policy is off or detects nothing in it. -/
theorem check_fst_eq_none (host : Host) (policy : LoadPolicy) (text : String) :
    (policy.check host text).1 = none ↔ (policy.enabled → detect host text = none) := by
  unfold check
  cases enabled : policy.enabled with
  | false => simp
  | true => cases found : detect host text <;> simp

end LoadPolicy

end AiPowerGateway.Share
