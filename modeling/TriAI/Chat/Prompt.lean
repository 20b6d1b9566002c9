import TriAI.Library.TextLines

/-!
Contract: the preparation of a text before inference (`prompt/`).

Owns: the scanner for secrets, the compression of a text, the token estimate and its
caps, and `prepare`, which applies the three.

Does not own: which texts of a request are prepared.
-/

set_option autoImplicit false

namespace TriAI.Chat

open TriAI.Library.TextLines

/-! ## Words -/

/-- `char::is_whitespace`: the code points with the property White_Space. -/
def isWhitespace (c : Char) : Bool :=
  decide (c.toNat ∈ [0x20, 0x85, 0xa0, 0x1680, 0x2028, 0x2029, 0x202f, 0x205f, 0x3000] ∨
    (0x9 ≤ c.toNat ∧ c.toNat ≤ 0xd) ∨ (0x2000 ≤ c.toNat ∧ c.toNat ≤ 0x200a))

/-- `str::split_whitespace`. -/
def splitWhitespace (text : String) : List String :=
  ((text.toList.splitOnP isWhitespace).filter fun word => !word.isEmpty).map String.ofList

/-- `str::trim_start`. -/
def trimStart (text : String) : String := String.ofList (text.toList.dropWhile isWhitespace)

/-- `str::trim_end`. -/
def trimEnd (text : String) : String := String.ofList (text.toList.rdropWhile isWhitespace)

/-- `str::starts_with`. -/
def startsWith (text start : String) : Bool := start.toList.isPrefixOf text.toList

/-- `str::contains`. -/
def contains (text part : String) : Bool := decide (part.toList <:+: text.toList)

/-- `str::to_ascii_lowercase`. -/
def toAsciiLowercase (text : String) : String := String.ofList (text.toList.map Char.toLower)

/-! ## Estimate and caps -/

/-- A character `estimate_tokens` counts as a token of its own. -/
def isCjk (c : Char) : Bool :=
  decide ((0x3040 ≤ c.toNat ∧ c.toNat ≤ 0x30ff) ∨ (0x3400 ≤ c.toNat ∧ c.toNat ≤ 0x9fff) ∨
    (0xac00 ≤ c.toNat ∧ c.toNat ≤ 0xd7af))

/-- `u32::saturating_add`. -/
def saturatingAdd (left right : UInt32) : UInt32 :=
  if left.toNat + right.toNat < 2 ^ 32 then left + right else UInt32.ofNat (2 ^ 32 - 1)

/-- `estimate_tokens`. -/
def estimateTokens (input : String) : UInt32 :=
  if input = "" then 0
  else
    let (cjk, other) := input.toList.foldl
      (fun (counts : UInt32 × UInt32) c =>
        if isCjk c then (counts.1 + 1, counts.2) else (counts.1, counts.2 + 1)) (0, 0)
    saturatingAdd cjk ((other + 3) / 4)

def taskCap : UInt32 := 1200

structure PromptCaps where
  taskTokens : UInt32 := taskCap
  runTokens : UInt32 := taskCap
  callTokens : UInt32 := taskCap

/-- `enforce`. -/
def enforce (input : String) (caps : PromptCaps) : Except String UInt32 :=
  let estimate := estimateTokens input
  if caps.taskTokens > taskCap ∨ estimate > caps.taskTokens ∨ estimate > caps.runTokens ∨
      estimate > caps.callTokens then
    .error "prompt token cap exceeded"
  else .ok estimate

/-! ## Compression -/

/-- The words `compress_line` drops. -/
def fillers : List String :=
  ["bitte", "please", "eigentlich", "basically", "just", "halt", "irgendwie"]

/-- `compress_line`. -/
def compressLine (line : String) : String :=
  let withoutUrls := (splitWhitespace line).filter fun word =>
    !startsWith word "http://" && !startsWith word "https://"
  " ".intercalate (withoutUrls.filter fun word => decide (toAsciiLowercase word ∉ fillers))

/-- The variables of the loop of `compress`. -/
structure Compression where
  result : String := ""
  code : Bool := false
  previous : Option String := none

/-- One line of `compress`. -/
def Compression.line (state : Compression) (line : String) : Compression :=
  if startsWith (trimStart line) "```" then
    { result := state.result ++ line ++ "\n", code := !state.code, previous := none }
  else
    let normalized := if state.code then line else compressLine line
    if !state.code ∧ normalized = "" then state
    else if !state.code ∧ state.previous = some normalized then state
    else
      { state with
        previous := some normalized
        result := state.result ++ normalized ++ "\n" }

/-- `compress`. -/
def compress (input : String) : String := trimEnd ((lines input).foldl Compression.line {}).result

/-! ## Preparation -/

structure PreparedPrompt where
  text : String
  estimatedTokens : UInt32
deriving DecidableEq

inductive PromptError where
  | secretDetected
  | capExceeded
deriving DecidableEq

/-- The derived `Debug` form. -/
def PromptError.debug : PromptError → String
  | .secretDetected => "SecretDetected"
  | .capExceeded => "CapExceeded"

/-- `contains_secret`. -/
def containsSecret (input : String) : Bool :=
  contains input "BEGIN PRIVATE KEY" ||
    (splitWhitespace input).any fun item => startsWith item "sk-" || startsWith item "AKIA"

/-- `prepare`. -/
def prepare (input : String) (caps : PromptCaps) : Except PromptError PreparedPrompt :=
  if containsSecret input then .error .secretDetected
  else
    let text := compress input
    match enforce text caps with
    | .error _ => .error .capExceeded
    | .ok estimatedTokens => .ok { text, estimatedTokens }

/-- What a prepared text is. -/
theorem prepare_eq_ok {input : String} {caps : PromptCaps} {prepared : PreparedPrompt}
    (succeeds : prepare input caps = .ok prepared) :
    containsSecret input = false ∧ prepared.text = compress input ∧
      estimateTokens prepared.text ≤ taskCap := by
  unfold prepare at succeeds
  split at succeeds
  · simp at succeeds
  · rename_i clean
    simp only [enforce] at succeeds
    split at succeeds
    · simp at succeeds
    · rename_i estimate enforced
      obtain rfl := Except.ok.inj succeeds
      split at enforced
      · simp at enforced
      · rename_i within
        simp only [not_or, gt_iff_lt, UInt32.not_lt] at within
        exact ⟨by simpa using clean, rfl, UInt32.le_trans within.2.1 within.1⟩

/-- Dropping a filler joins what it separated. -/
example : compress "BEGIN please PRIVATE KEY" = "BEGIN PRIVATE KEY" := by decide +kernel

end TriAI.Chat
