import ImagegenBridge.Core.Capabilities
import ImagegenBridge.Core.Response
import ImagegenBridge.Core.Text

/-!
# Transparent-background routing, `crates/runtime/src/transparency.rs`

The key color is `ChromaKey` of `crates/artifacts/src/chroma.rs`.
-/

namespace ImagegenBridge.Transparency

/-- RGB color used as a generated solid background. -/
structure ChromaKey where
  red : UInt8
  green : UInt8
  blue : UInt8
  deriving DecidableEq, Repr

def chromaError (message : String) : BridgeError :=
  (BridgeError.new .artifact message).withDetail "stage" (.string "transparent_background")

def hexDigit (c : Char) : Nat :=
  let n := c.toNat
  if n ≤ 0x39 then n - 0x30 else if n ≤ 0x46 then n - 0x41 + 10 else n - 0x61 + 10

def hexChar (value : Nat) : Char :=
  if value < 10 then Char.ofNat (0x30 + value) else Char.ofNat (0x61 + value - 10)

def channel (high low : Char) : UInt8 := UInt8.ofNat (hexDigit high * 16 + hexDigit low)

namespace ChromaKey

/-- Parses `#RRGGBB` or `RRGGBB`. -/
def parse (value : String) : Outcome ChromaKey :=
  let digits := match value.toList with
    | '#' :: rest => rest
    | digits => digits
  let malformed := chromaError "chroma key must be a hex RGB color like #00ff00"
  match digits with
  | [r, r', g, g', b, b'] =>
    if digits.all Text.isAsciiHexdigit then .ok ⟨channel r r', channel g g', channel b b'⟩
    else .error malformed
  | _ => .error malformed

/-- Lowercase CSS-compatible hexadecimal representation. -/
def hex (key : ChromaKey) : String :=
  let pair := fun (value : UInt8) => [hexChar (value.toNat / 16), hexChar (value.toNat % 16)]
  String.ofList ('#' :: pair key.red ++ pair key.green ++ pair key.blue)

end ChromaKey

/-- Controls for a soft chroma matte. -/
structure ChromaKeyOptions where
  key : ChromaKey
  transparentThreshold : Nat
  opaqueThreshold : Nat
  despill : Bool
  deriving DecidableEq

structure TransparencyPlan where
  chroma : ChromaKeyOptions
  deriving DecidableEq

structure PreparedTransparency where
  providerRequest : ImageRequest
  plan : Option TransparencyPlan
  normalizations : List Normalization

/-- `text.match_indices(word).count()`: occurrences that do not overlap. -/
def occurrences (word : List Char) : Nat → List Char → Nat
  | 0, _ => 0
  | _, [] => 0
  | fuel + 1, c :: rest =>
    if word.isPrefixOf (c :: rest) then 1 + occurrences word fuel ((c :: rest).drop word.length)
    else occurrences word fuel rest

def keyCandidates : List (ChromaKey × List String) :=
  [(⟨0, 255, 0⟩, ["green", "verde", "lime", "emerald", "smeraldo", "forest"]),
   (⟨255, 0, 255⟩, ["magenta", "pink", "rosa", "purple", "viola", "fuchsia"]),
   (⟨0, 0, 255⟩, ["blue", "blu", "azzurro", "cyan", "cobalt", "navy"])]

def mentions (prompt : List Char) (words : List String) : Nat :=
  (words.map (fun word => occurrences word.toList prompt.length prompt)).sum

/-- The candidate whose color words the prompt mentions least, the first on a tie. -/
def selectKey (prompt : String) : ChromaKey :=
  let text := Text.lowercase prompt.toList
  ((keyCandidates.foldl (fun best candidate => match best with
    | none => some candidate
    | some chosen =>
      if mentions text candidate.2 < mentions text chosen.2 then some candidate else best)
    none).map Prod.fst).getD ⟨0, 255, 0⟩

def unsupported (c : ProviderCapabilities) (field message : String) : BridgeError :=
  ((BridgeError.new .unsupportedCapability message).withProvider c.provider).withDetail "field"
    (.string field)

def workflowPrompt (key : String) : String :=
  "\n\nTRANSPARENT BACKGROUND WORKFLOW: Render the complete subject isolated on a perfectly flat, uniform solid "
    ++ key ++ " background. The background must contain only that exact color: no gradient, texture, pattern, horizon, environment, floor, cast shadow, glow, reflection, or extra objects. Keep every part of the subject away from the image edges and preserve clean antialiased contours. Do not use "
    ++ key ++ " anywhere in the subject."

/-- An automatic mode follows what the provider supports. -/
def chosenMode (requested : TransparencyMode) (native : Bool) : TransparencyMode :=
  match requested with
  | .auto => if native then .native else .chromaKey
  | explicit => explicit

def modeNormalization (requested mode : TransparencyMode) : Normalization where
  field := "output.transparency.mode"
  requested := some (.string requested.wire)
  effective := some (.string mode.wire)
  reason := if mode = .native then "provider_supports_native_alpha"
    else "provider_alpha_emulated_with_local_chroma_key"

/-- JPEG has no alpha: a lenient request is generated as PNG. -/
def alphaFormat (request : ImageRequest) (c : ProviderCapabilities) :
    Outcome (GenerationParameters × List Normalization) :=
  if request.parameters.outputFormat = .jpeg then
    if request.policies.compatibility = .strict then
      .error (unsupported c "parameters.output_format"
        "transparent output cannot be encoded as JPEG")
    else .ok ({ request.parameters with outputFormat := .png, outputCompression := none },
      [⟨"parameters.output_format", some (.string OutputFormat.jpeg.wire),
        some (.string OutputFormat.png.wire), "transparent_output_requires_alpha_capable_format"⟩])
  else .ok (request.parameters, [])

def chosenKey (request : ImageRequest) : Outcome ChromaKey :=
  match request.output.transparency.keyColor with
  | some color => ChromaKey.parse color
  | none => .ok (selectKey request.prompt)

/-- The background the keyed image is generated on. -/
def keyableBackground (c : ProviderCapabilities) : Outcome Background :=
  if c.backgrounds.contains .auto then .ok .auto
  else if c.backgrounds.contains .opaqueFill then .ok .opaqueFill
  else .error (unsupported c "parameters.background"
    "selected provider/model cannot generate a chroma-key background")

/-- The chroma-key branch: another background, a longer prompt and a local plan. -/
def prepareChromaKey (request : ImageRequest) (c : ProviderCapabilities)
    (normalizations : List Normalization) : Outcome PreparedTransparency := do
  let (parameters, formatNotes) ← alphaFormat request c
  let key ← chosenKey request
  let background ← keyableBackground c
  let options := request.output.transparency
  .ok {
    providerRequest := { request with
      prompt := request.prompt ++ workflowPrompt key.hex
      parameters := { parameters with background } }
    plan := some ⟨{ key, transparentThreshold := options.transparentThreshold,
                    opaqueThreshold := options.opaqueThreshold, despill := options.despill }⟩
    normalizations := normalizations ++ formatNotes ++
      [⟨"parameters.background", some (.string Background.transparent.wire),
        some (.string Background.transparent.wire),
        "transparent_result_via_chroma_key_postprocessing"⟩,
       ⟨"output.transparency.key_color", options.keyColor.map Json.string, some (.string key.hex),
        if options.keyColor.isSome then "explicit_chroma_key"
        else "prompt_aware_chroma_key_selection"⟩] }

def prepareTransparency (request : ImageRequest) (c : ProviderCapabilities) :
    Outcome PreparedTransparency := do
  if request.parameters.background ≠ .transparent then
    return { providerRequest := request, plan := none, normalizations := [] }
  let requested := request.output.transparency.mode
  Outcome.failIf (requested = .auto ∧ c.transparentBackground = .unsupported)
    (unsupported c "parameters.background"
      "selected provider/model does not support transparent output")
  let native := c.transparentBackground == .native
  let mode := chosenMode requested native
  let noted := [modeNormalization requested mode]
  if mode = .native then
    Outcome.failIf (¬native)
      ((unsupported c "output.transparency.mode"
        "selected provider/model does not support native transparent output").withDetail "requested"
        (.string "native"))
    return { providerRequest := request, plan := none, normalizations := noted }
  prepareChromaKey request c noted

variable {request : ImageRequest} {c : ProviderCapabilities} {prepared : PreparedTransparency}

theorem alphaFormat_ok {parameters : GenerationParameters} {notes : List Normalization}
    (ok : alphaFormat request c = .ok (parameters, notes)) : parameters.outputFormat ≠ .jpeg := by
  unfold alphaFormat at ok
  split at ok
  · split at ok
    · cases ok
    · cases ok
      intro jpeg
      cases jpeg
  · rename_i other
    cases ok
    exact other

theorem keyableBackground_ok {background : Background} (ok : keyableBackground c = .ok background) :
    background ≠ .transparent := by
  unfold keyableBackground at ok
  split at ok
  · cases ok
    intro transparent
    cases transparent
  · split at ok
    · cases ok
      intro transparent
      cases transparent
    · cases ok

theorem prepareChromaKey_ok {noted : List Normalization}
    (ok : prepareChromaKey request c noted = .ok prepared) :
    prepared.providerRequest.parameters.background ≠ .transparent ∧
      prepared.providerRequest.parameters.outputFormat ≠ .jpeg ∧
      prepared.providerRequest.output = request.output := by
  unfold prepareChromaKey at ok
  obtain ⟨⟨parameters, notes⟩, format, ok⟩ := Outcome.bind_ok.mp ok
  obtain ⟨key, _, ok⟩ := Outcome.bind_ok.mp ok
  obtain ⟨background, keyable, ok⟩ := Outcome.bind_ok.mp ok
  have suits : parameters.outputFormat ≠ .jpeg := alphaFormat_ok format
  cases ok
  exact ⟨keyableBackground_ok keyable, suits, rfl⟩

/-- A local plan exists only where the provider is asked for another background
in an alpha-capable format; delivery options are never rewritten. -/
theorem prepareTransparency_ok (ok : prepareTransparency request c = .ok prepared) :
    prepared.providerRequest.output = request.output ∧
      (prepared.plan ≠ none → prepared.providerRequest.parameters.background ≠ .transparent ∧
        prepared.providerRequest.parameters.outputFormat ≠ .jpeg) := by
  unfold prepareTransparency at ok
  split at ok
  · cases ok
    exact ⟨rfl, fun planned => absurd rfl planned⟩
  · obtain ⟨_, _, ok⟩ := Outcome.bind_ok.mp ok
    dsimp only at ok
    split at ok
    · obtain ⟨_, _, ok⟩ := Outcome.bind_ok.mp ok
      cases ok
      exact ⟨rfl, fun planned => absurd rfl planned⟩
    · obtain ⟨background, format, kept⟩ := prepareChromaKey_ok ok
      exact ⟨kept, fun _ => ⟨background, format⟩⟩

end ImagegenBridge.Transparency
