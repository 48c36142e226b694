import Lamb.Error
import Lamb.Lib.Path

/-!
Export patterns: a text with tokens in braces, from which the directory and the
file name of every output are rendered. A pattern is rendered into anything
that can be written to; a sink that is full refuses the text.
-/

namespace Lamb.Export

inductive ExportCommand
  | recall
  | dump
  deriving DecidableEq, Repr

inductive PatternToken
  | timestamp
  | channel
  | sampleRate
  | startFrame
  | endFrame
  | part
  | partSuffix
  | profile
  deriving DecidableEq, Repr

def PatternToken.parse (value : String) : Option PatternToken :=
  if value = "timestamp" then some .timestamp
  else if value = "channel" then some .channel
  else if value = "sampleRate" then some .sampleRate
  else if value = "startFrame" then some .startFrame
  else if value = "endFrame" then some .endFrame
  else if value = "part" then some .part
  else if value = "partSuffix" then some .partSuffix
  else if value = "profile" then some .profile
  else none

inductive PatternSegment
  | literal (value : String)
  | token (token : PatternToken)
  | zeroPaddedToken (token : PatternToken) (width : ℕ)
  deriving DecidableEq, Repr

structure ValidatedPattern where
  segments : List PatternSegment
  deriving DecidableEq, Repr

/-! ### Parsing -/

def literalSegment (chars : List Char) : List PatternSegment :=
  if chars = [] then [] else [.literal (String.ofList chars)]

/-- The loop of `ValidatedPattern::parse`, character by character: `literal`
is the text since the last token, `name` the open token. -/
def parseSegments (literal : List Char) (name : Option (List Char)) :
    List Char → Result (List PatternSegment)
  | [] =>
      match name with
      | none => .ok (literalSegment literal)
      | some _ => .error (.validation "unmatched opening brace in export pattern")
  | c :: rest =>
      match name with
      | none =>
          if c = '\x7d' then .error (.validation "unmatched closing brace in export pattern")
          else if c = '\x7b' then
            (parseSegments [] (some []) rest).map (literalSegment literal ++ ·)
          else parseSegments (literal ++ [c]) none rest
      | some name =>
          if c = '\x7d' then
            if '\x7b' ∈ name then
              .error (.validation "nested braces are not allowed in export patterns")
            else match PatternToken.parse (String.ofList name) with
              | none => .error (.validation ("unknown or empty export pattern token \x7b" ++
                  String.ofList name ++ "\x7d"))
              | some token => (parseSegments [] none rest).map (.token token :: ·)
          else parseSegments [] (some (name ++ [c])) rest

def ValidatedPattern.parse (pattern : String) : Result ValidatedPattern :=
  (parseSegments [] none pattern.toList).map .mk

def ValidatedPattern.contains (pattern : ValidatedPattern) (wanted : PatternToken) : Bool :=
  pattern.segments.any fun
    | .literal _ => false
    | .token token => token == wanted
    | .zeroPaddedToken token _ => token == wanted

def ValidatedPattern.withZeroPadding (pattern : ValidatedPattern)
    (widths : List (PatternToken × ℕ)) : ValidatedPattern where
  segments := pattern.segments.map fun
    | .token token =>
        match widths.find? fun candidate => candidate.1 == token with
        | some (_, width) => .zeroPaddedToken token width
        | none => .token token
    | segment => segment

/-! ### Layouts -/

inductive ResolvedLayout
  | commandDefault
  | flatDetailed
  | timestampDirectory
  | custom (directoryPattern filenamePattern : ValidatedPattern)
  deriving DecidableEq, Repr

inductive EffectiveLayout
  | flatDetailed
  | timestampDirectory
  | custom
  deriving DecidableEq, Repr

inductive PublicationStrategy
  | fileSet
  | atomicDirectory
  deriving DecidableEq, Repr

def ResolvedLayout.effectiveLayout (command : ExportCommand) : ResolvedLayout → EffectiveLayout
  | .commandDefault =>
      match command with
      | .recall => .flatDetailed
      | .dump => .timestampDirectory
  | .flatDetailed => .flatDetailed
  | .timestampDirectory => .timestampDirectory
  | .custom _ _ => .custom

def ResolvedLayout.publicationStrategy (layout : ResolvedLayout) (command : ExportCommand) :
    PublicationStrategy :=
  match layout.effectiveLayout command with
  | .timestampDirectory => .atomicDirectory
  | .flatDetailed => .fileSet
  | .custom => .fileSet

/-- The directory pattern and the file name pattern of a command. -/
def patternsForLayout (layout : ResolvedLayout) (command : ExportCommand) :
    Result (ValidatedPattern × ValidatedPattern) :=
  match layout.effectiveLayout command with
  | .flatDetailed => do
      let directory ← ValidatedPattern.parse ""
      let filename ← ValidatedPattern.parse
        "lamb-\x7btimestamp\x7d-\x7bchannel\x7d-\x7bsampleRate\x7dHz-\x7bstartFrame\x7d-\x7bendFrame\x7d-part\x7bpart\x7d.wav"
      pure (directory, filename.withZeroPadding [(.startFrame, 9), (.endFrame, 9), (.part, 3)])
  | .timestampDirectory => do
      let directory ← ValidatedPattern.parse "\x7btimestamp\x7d"
      let filename ← ValidatedPattern.parse "\x7bchannel\x7d\x7bpartSuffix\x7d.wav"
      pure (directory, filename)
  | .custom =>
      match layout with
      | .custom directory filename => .ok (directory, filename)
      | _ => .error (.validation "custom layout resolution is inconsistent")

/-! ### Rendering -/

structure RenderContext where
  command : ExportCommand
  profile : String
  timestamp : String
  sampleRate : ℕ
  exportStartFrame : ℕ
  exportEndFrame : ℕ
  splitWhenOverBytes : ℕ
  maximumPathBytes : ℕ
  deriving DecidableEq, Repr

/-- What `render_output_to` is given of one part of one channel. -/
structure OutputPart where
  channel : String
  part : ℕ
  partSuffix : String
  startFrame : ℕ
  endFrame : ℕ
  deriving DecidableEq, Repr

/-- A decimal number filled up with zeros on the left. -/
def zeroPadded (width n : ℕ) : String :=
  String.ofList (List.replicate (width - (toString n).length) '0') ++ toString n

def PatternToken.maximumBytes (context : RenderContext) (channel : String) : PatternToken → ℕ
  | .timestamp => context.timestamp.utf8ByteSize
  | .channel => channel.utf8ByteSize
  | .sampleRate => 10
  | .startFrame => 20
  | .endFrame => 20
  | .part => 20
  | .partSuffix => 25
  | .profile => context.profile.utf8ByteSize

def PatternSegment.maximumBytes (context : RenderContext) (channel : String) : PatternSegment → ℕ
  | .literal value => value.utf8ByteSize
  | .token kind => kind.maximumBytes context channel
  | .zeroPaddedToken kind width => max (kind.maximumBytes context channel) width

def ValidatedPattern.maximumRenderedBytes (pattern : ValidatedPattern) (context : RenderContext)
    (channel : String) : Result ℕ :=
  pattern.segments.foldlM (fun length segment =>
    match checkedAdd length (segment.maximumBytes context channel) with
    | some length => .ok length
    | none => .error (.validation "export pattern capacity overflow")) 0

section Render

variable {σ : Type} (writeStr : σ → String → Option σ)

/-- One `write!`, and the error a refusal is turned into. -/
def writeOr (message : String) (output : σ) (text : String) : Result σ :=
  match writeStr output text with
  | some output => .ok output
  | none => .error (.validation message)

def renderSegment (context : RenderContext) (out : OutputPart) (output : σ) :
    PatternSegment → Result σ
  | .literal value => writeOr writeStr "could not render literal" output value
  | .token .timestamp => writeOr writeStr "could not render timestamp token" output context.timestamp
  | .token .channel => writeOr writeStr "could not render channel token" output out.channel
  | .token .sampleRate =>
      writeOr writeStr "could not render sample-rate token" output (toString context.sampleRate)
  | .token .startFrame =>
      writeOr writeStr "could not render start-frame token" output (toString out.startFrame)
  | .token .endFrame =>
      writeOr writeStr "could not render end-frame token" output (toString out.endFrame)
  | .token .part => writeOr writeStr "could not render part token" output (toString out.part)
  | .token .partSuffix => writeOr writeStr "could not render part suffix token" output out.partSuffix
  | .token .profile => writeOr writeStr "could not render profile token" output context.profile
  | .zeroPaddedToken .startFrame width =>
      writeOr writeStr "could not render start-frame token" output (zeroPadded width out.startFrame)
  | .zeroPaddedToken .endFrame width =>
      writeOr writeStr "could not render end-frame token" output (zeroPadded width out.endFrame)
  | .zeroPaddedToken .part width =>
      writeOr writeStr "could not render part token" output (zeroPadded width out.part)
  | .zeroPaddedToken _ _ => .error (.validation "unsupported zero-padded export token")

def renderOutputTo (pattern : ValidatedPattern) (context : RenderContext) (out : OutputPart)
    (output : σ) : Result σ :=
  pattern.segments.foldlM (renderSegment writeStr context out) output

end Render

/-- Writing to a `String` never fails. -/
def pushStr (output text : String) : Option String := some (output ++ text)

/-- `render_output_into`, which clears the `String` first. -/
def renderOutputInto (pattern : ValidatedPattern) (context : RenderContext) (out : OutputPart) :
    Result String :=
  renderOutputTo pushStr pattern context out ""

/-! ### What a sink that may be full receives -/

/-- The text a segment stands for. -/
def segmentText (context : RenderContext) (out : OutputPart) : PatternSegment → Option String
  | .literal value => some value
  | .token .timestamp => some context.timestamp
  | .token .channel => some out.channel
  | .token .sampleRate => some (toString context.sampleRate)
  | .token .startFrame => some (toString out.startFrame)
  | .token .endFrame => some (toString out.endFrame)
  | .token .part => some (toString out.part)
  | .token .partSuffix => some out.partSuffix
  | .token .profile => some context.profile
  | .zeroPaddedToken .startFrame width => some (zeroPadded width out.startFrame)
  | .zeroPaddedToken .endFrame width => some (zeroPadded width out.endFrame)
  | .zeroPaddedToken .part width => some (zeroPadded width out.part)
  | .zeroPaddedToken _ _ => none

theorem renderSegment_eq_ok {σ : Type} {writeStr : σ → String → Option σ}
    {context : RenderContext} {out : OutputPart} {output output' : σ} {segment : PatternSegment} :
    renderSegment writeStr context out output segment = .ok output' ↔
      ∃ text, segmentText context out segment = some text ∧ writeStr output text = some output' := by
  have hwrite (message text : String) :
      writeOr writeStr message output text = .ok output' ↔
        writeStr output text = some output' := by
    unfold writeOr
    split <;> simp_all
  cases segment with
  | literal value => simp [renderSegment, segmentText, hwrite]
  | token token => cases token <;> simp [renderSegment, segmentText, hwrite]
  | zeroPaddedToken token width => cases token <;> simp [renderSegment, segmentText, hwrite]

end Lamb.Export
