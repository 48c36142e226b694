import Mathlib.Computability.Language
import Lamb.Export.Pattern
import Lamb.Lib.Loop
import Lamb.Lib.Scan

/-!
The grammar of export patterns. The parser walks over the bytes of a pattern: it
looks for the next brace, slices out what stands before it, and slices out the
token up to the closing brace. Every slice it takes lies on character boundaries,
what it accepts is the language of literals without braces and known tokens in
braces, and its segments spell the pattern.
-/

namespace Lamb.Export

open Lamb.Lib Lamb.Lib.Path
open scoped Computability

/-! ### The parser on byte positions -/

def isBrace (c : Char) : Bool :=
  c == '\x7b' || c == '\x7d'

/-- The loop of `ValidatedPattern::parse` from `cursor` on. `none` is a panic:
a slice or an index that is not one of the text. -/
def ValidatedPattern.parseFrom (pattern : List Char) (cursor : ℕ)
    (segments : List PatternSegment) : Option (Result ValidatedPattern) :=
  if _h : cursor < byteLength pattern then
    match dropBytes pattern cursor with
    | none => none
    | some remainder =>
        match findByte isBrace remainder with
        | none => some (.ok ⟨segments ++ [.literal (String.ofList remainder)]⟩)
        | some offset =>
            let braceIndex := cursor + offset
            match (if cursor < braceIndex then
                (sliceBytes pattern cursor braceIndex).map fun literal =>
                  segments ++ [PatternSegment.literal (String.ofList literal)]
              else some segments) with
            | none => none
            | some segments =>
                match byteAt pattern braceIndex with
                | none => none
                | some byte =>
                    if byte = 0x7d then
                      some (.error (.validation "unmatched closing brace in export pattern"))
                    else
                      let tokenStart := braceIndex + 1
                      match dropBytes pattern tokenStart with
                      | none => none
                      | some tokenRemainder =>
                          match findByte (· == '\x7d') tokenRemainder with
                          | none =>
                              some (.error
                                (.validation "unmatched opening brace in export pattern"))
                          | some closeOffset =>
                              let closeIndex := tokenStart + closeOffset
                              match sliceBytes pattern tokenStart closeIndex with
                              | none => none
                              | some tokenName =>
                                  if '\x7b' ∈ tokenName then
                                    some (.error (.validation
                                      "nested braces are not allowed in export patterns"))
                                  else
                                    match PatternToken.parse (String.ofList tokenName) with
                                    | none =>
                                        some (.error (.validation
                                          ("unknown or empty export pattern token \x7b" ++
                                            String.ofList tokenName ++ "\x7d")))
                                    | some token =>
                                        ValidatedPattern.parseFrom pattern (closeIndex + 1)
                                          (segments ++ [.token token])
  else some (.ok ⟨segments⟩)
termination_by byteLength pattern - cursor

/-- `ValidatedPattern::parse` on the bytes of its argument. -/
def ValidatedPattern.parseBytes (pattern : String) : Option (Result ValidatedPattern) :=
  ValidatedPattern.parseFrom pattern.toList 0 []

/-! ### The language -/

/-- The text a token has between its braces. -/
def PatternToken.name : PatternToken → String
  | .timestamp => "timestamp"
  | .channel => "channel"
  | .sampleRate => "sampleRate"
  | .startFrame => "startFrame"
  | .endFrame => "endFrame"
  | .part => "part"
  | .partSuffix => "partSuffix"
  | .profile => "profile"

/-- Texts without a brace. -/
def literals : Language Char :=
  {text | ∀ c ∈ text, isBrace c = false}

/-- The known tokens in braces. -/
def placeholders : Language Char :=
  {text | ∃ token : PatternToken, text = '\x7b' :: token.name.toList ++ ['\x7d']}

/-- The piece of the pattern a segment comes from. The parser itself makes no
padded token. -/
def PatternSegment.source : PatternSegment → List Char
  | .literal value => value.toList
  | .token kind => '\x7b' :: kind.name.toList ++ ['\x7d']
  | .zeroPaddedToken kind _ => '\x7b' :: kind.name.toList ++ ['\x7d']

/-- A segment as the parser makes it: a literal has a text and no brace in it. -/
def PatternSegment.Parsed : PatternSegment → Prop
  | .literal value => value ≠ "" ∧ value.toList ∈ literals
  | .token _ => True
  | .zeroPaddedToken _ _ => False

theorem PatternToken.parse_eq_some_iff {value : String} {token : PatternToken} :
    PatternToken.parse value = some token ↔ value = token.name := by
  constructor
  · intro h
    unfold PatternToken.parse at h
    repeat' split at h
    all_goals cases h
    all_goals assumption
  · rintro rfl
    cases token <;> rfl

theorem PatternToken.isBrace_name (token : PatternToken) :
    ∀ c ∈ token.name.toList, isBrace c = false := by
  have hall : token.name.toList.all (fun c => !isBrace c) = true := by
    cases token <;> rfl
  intro c hc
  simpa using List.all_eq_true.mp hall c hc

theorem isBrace_eq_false {c : Char} : isBrace c = false ↔ c ≠ '\x7b' ∧ c ≠ '\x7d' := by
  simp [isBrace]

theorem isBrace_eq_true {c : Char} : isBrace c = true ↔ c = '\x7b' ∨ c = '\x7d' := by
  simp [isBrace]

/-! ### The characters one by one -/

theorem parseSegments_literal (literal : List Char) {text : List Char}
    (htext : ∀ c ∈ text, isBrace c = false) (rest : List Char) :
    parseSegments literal none (text ++ rest) = parseSegments (literal ++ text) none rest := by
  induction text generalizing literal with
  | nil => simp
  | cons c text ih =>
      obtain ⟨hc, htext⟩ := List.forall_mem_cons.mp htext
      obtain ⟨hopen, hclose⟩ := isBrace_eq_false.mp hc
      rw [List.cons_append, parseSegments, if_neg hclose, if_neg hopen, ih _ htext,
        List.append_assoc, List.singleton_append]

theorem parseSegments_name (name : List Char) {text : List Char}
    (htext : ∀ c ∈ text, c ≠ '\x7d') (rest : List Char) :
    parseSegments [] (some name) (text ++ rest) = parseSegments [] (some (name ++ text)) rest := by
  induction text generalizing name with
  | nil => simp
  | cons c text ih =>
      obtain ⟨hc, htext⟩ := List.forall_mem_cons.mp htext
      rw [List.cons_append, parseSegments, if_neg hc, ih _ htext, List.append_assoc,
        List.singleton_append]

theorem parseSegments_placeholder (literal : List Char) (token : PatternToken)
    (rest : List Char) :
    parseSegments literal none ('\x7b' :: (token.name.toList ++ '\x7d' :: rest)) =
      (parseSegments [] none rest).map fun segments =>
        literalSegment literal ++ .token token :: segments := by
  have hname : ∀ c ∈ token.name.toList, c ≠ '\x7d' :=
    fun c hc => (isBrace_eq_false.mp (token.isBrace_name c hc)).2
  have hopen : '\x7b' ∉ token.name.toList :=
    fun h => (isBrace_eq_false.mp (token.isBrace_name _ h)).1 rfl
  rw [parseSegments, if_neg (by decide), if_pos rfl, parseSegments_name [] hname,
    List.nil_append, parseSegments, if_pos rfl, if_neg hopen, String.ofList_toList,
    PatternToken.parse_eq_some_iff.mpr rfl]
  cases parseSegments [] none rest <;> rfl

/-- What the parser makes of a text before a brace. -/
theorem ValidatedPattern.literal_slice (done literal rest : List Char)
    (segments : List PatternSegment) :
    (if byteLength done < byteLength done + byteLength literal then
        (sliceBytes (done ++ literal ++ rest) (byteLength done)
            (byteLength done + byteLength literal)).map fun literal =>
          segments ++ [PatternSegment.literal (String.ofList literal)]
      else some segments) = some (segments ++ literalSegment literal) := by
  unfold literalSegment
  split
  next hlt =>
    have hne : literal ≠ [] := byteLength_pos.mp (by omega)
    rw [sliceBytes_append, if_neg hne]
    rfl
  next hge =>
    have hnil : literal = [] := by
      by_contra hne
      have := byteLength_pos.mpr hne
      omega
    rw [if_pos hnil, List.append_nil]

/-- The parser on positions does what the parser on characters does, from every
position between two segments. -/
theorem ValidatedPattern.parseFrom_eq (done rest : List Char) (segments : List PatternSegment) :
    ValidatedPattern.parseFrom (done ++ rest) (byteLength done) segments =
      some ((parseSegments [] none rest).map fun parsed => ⟨segments ++ parsed⟩) := by
  induction hn : rest.length using Nat.strong_induction_on generalizing done rest segments with
  | _ n ih =>
  unfold ValidatedPattern.parseFrom
  rw [byteLength_append]
  split
  next hlt =>
    have hne : rest ≠ [] := byteLength_pos.mp (by omega)
    rw [dropBytes_append]
    dsimp only
    cases hfind : findByte isBrace rest with
    | none =>
        have hfree := findByte_eq_none hfind
        have hparse := parseSegments_literal [] hfree []
        rw [List.append_nil, List.nil_append] at hparse
        rw [hparse, parseSegments, literalSegment, if_neg hne]
        rfl
    | some offset =>
        obtain ⟨literal, c, back, rfl, rfl, hc, hfree⟩ := findByte_eq_some hfind
        have hassoc : done ++ (literal ++ c :: back) = done ++ literal ++ c :: back := by simp
        dsimp only
        rw [hassoc, ValidatedPattern.literal_slice, ← byteLength_append, byteAt_append,
          parseSegments_literal [] hfree, List.nil_append]
        -- A closing brace ends the parse; after an opening one a token follows.
        rcases isBrace_eq_true.mp hc with rfl | rfl
        · have hbyte : (String.utf8EncodeChar '\x7b')[0]? = some 0x7b := rfl
          rw [hbyte]
          dsimp only
          rw [if_neg (by decide)]
          have hstart : byteLength (done ++ literal) + 1 = byteLength (done ++ literal ++ ['\x7b']) := by
            rw [byteLength_append (done ++ literal)]
            rfl
          have hopen : done ++ literal ++ '\x7b' :: back = done ++ literal ++ ['\x7b'] ++ back := by
            simp
          rw [hstart, hopen, dropBytes_append, parseSegments, if_neg (by decide), if_pos rfl]
          dsimp only
          cases hclose : findByte (· == '\x7d') back with
          | none =>
              have hname : ∀ c ∈ back, c ≠ '\x7d' := fun c hc => by
                simpa using findByte_eq_none hclose c hc
              have hparse := parseSegments_name [] hname []
              rw [List.append_nil, List.nil_append] at hparse
              rw [hparse, parseSegments]
              rfl
          | some closeOffset =>
              obtain ⟨name, d, tail, rfl, rfl, hd, hname⟩ := findByte_eq_some hclose
              have hd : d = '\x7d' := by simpa using hd
              subst hd
              have hname : ∀ c ∈ name, c ≠ '\x7d' := fun c hc => by simpa using hname c hc
              dsimp only
              rw [parseSegments_name [] hname, List.nil_append, parseSegments, if_pos rfl,
                ← List.append_assoc (done ++ literal ++ ['\x7b']), sliceBytes_append]
              dsimp only
              split
              · rfl
              · cases htoken : PatternToken.parse (String.ofList name) with
                | none => rfl
                | some token =>
                    dsimp only
                    have hnext : byteLength (done ++ literal ++ ['\x7b']) + byteLength name + 1 =
                        byteLength (done ++ literal ++ ['\x7b'] ++ name ++ ['\x7d']) := by
                      rw [byteLength_append _ ['\x7d'], byteLength_append _ name]
                      rfl
                    have htail : done ++ literal ++ ['\x7b'] ++ name ++ '\x7d' :: tail =
                        done ++ literal ++ ['\x7b'] ++ name ++ ['\x7d'] ++ tail := by simp
                    have hshorter : tail.length < n := by
                      rw [← hn]
                      simp only [List.length_append, List.length_cons]
                      omega
                    rw [hnext, htail, ih _ hshorter _ _ _ rfl]
                    cases parseSegments [] none tail with
                    | error e => rfl
                    | ok parsed => simp [Except.map]
        · have hbyte : (String.utf8EncodeChar '\x7d')[0]? = some 0x7d := rfl
          rw [hbyte, parseSegments, if_pos rfl]
          rfl
  next hge =>
    have hnil : rest = [] := by
      by_contra hne
      have := byteLength_pos.mpr hne
      omega
    subst hnil
    simp [parseSegments, literalSegment, Except.map]

/-! ### What is accepted -/

theorem nil_mem_literals : [] ∈ literals := by
  intro c hc
  cases hc

theorem literalSegment_source {literal : List Char} :
    (literalSegment literal).flatMap PatternSegment.source = literal := by
  unfold literalSegment
  split
  next hnil => exact hnil.symm
  next => simp [PatternSegment.source]

theorem parsed_of_mem_literalSegment {literal : List Char} (hliteral : literal ∈ literals) :
    ∀ segment ∈ literalSegment literal, segment.Parsed := by
  unfold literalSegment
  split
  · simp
  next hne =>
    intro segment hsegment
    rw [List.mem_singleton.mp hsegment]
    refine ⟨?_, by rwa [String.toList_ofList]⟩
    intro hempty
    apply hne
    rw [← @String.toList_ofList literal, hempty]
    rfl

/-- Nothing of the text is lost: the segments spell what was read, the text before
`cs` included. -/
theorem parseSegments_spells {literal cs : List Char} {name : Option (List Char)}
    {segments : List PatternSegment} (hliteral : literal ∈ literals)
    (hname : name ≠ none → literal = []) (h : parseSegments literal name cs = .ok segments) :
    segments.flatMap PatternSegment.source =
        literal ++ (name.elim [] ('\x7b' :: ·)) ++ cs ∧
      ∀ segment ∈ segments, segment.Parsed := by
  induction cs generalizing literal name segments with
  | nil =>
      cases name with
      | none =>
          cases h
          exact ⟨by rw [literalSegment_source]; simp, parsed_of_mem_literalSegment hliteral⟩
      | some name => cases h
  | cons c cs ih =>
      cases name with
      | none =>
          rw [parseSegments] at h
          split at h
          · cases h
          next hclose =>
            split at h
            next hopen =>
              obtain ⟨parsed, hparsed, rfl⟩ := except_map_eq_ok h
              obtain ⟨hsource, hall⟩ := ih nil_mem_literals (fun _ => rfl) hparsed
              refine ⟨?_, ?_⟩
              · rw [List.flatMap_append, literalSegment_source, hsource, hopen]
                simp
              · intro segment hsegment
                rcases List.mem_append.mp hsegment with hfirst | hlater
                · exact parsed_of_mem_literalSegment hliteral segment hfirst
                · exact hall segment hlater
            next hopen =>
              have hliteral' : literal ++ [c] ∈ literals := by
                intro d hd
                rcases List.mem_append.mp hd with hd | hd
                · exact hliteral d hd
                · rw [List.mem_singleton.mp hd]
                  exact isBrace_eq_false.mpr ⟨hopen, hclose⟩
              obtain ⟨hsource, hall⟩ := ih hliteral' (fun h => absurd rfl h) h
              refine ⟨?_, hall⟩
              rw [hsource]
              simp
      | some name =>
          have hnil := hname (by simp)
          subst hnil
          rw [parseSegments] at h
          split at h
          next hclose =>
            split at h
            · cases h
            · cases htoken : PatternToken.parse (String.ofList name) with
              | none =>
                  rw [htoken] at h
                  cases h
              | some token =>
                  rw [htoken] at h
                  obtain ⟨parsed, hparsed, rfl⟩ := except_map_eq_ok h
                  obtain ⟨hsource, hall⟩ := ih nil_mem_literals (fun h => absurd rfl h) hparsed
                  have hspelled : token.name.toList = name := by
                    rw [← PatternToken.parse_eq_some_iff.mp htoken, String.toList_ofList]
                  refine ⟨?_, ?_⟩
                  · rw [List.flatMap_cons, hsource, PatternSegment.source, hspelled, hclose]
                    simp
                  · rw [List.forall_mem_cons]
                    exact ⟨trivial, hall⟩
          next hclose =>
            obtain ⟨hsource, hall⟩ := ih hliteral (fun _ => rfl) h
            refine ⟨?_, hall⟩
            rw [hsource]
            simp

theorem source_mem {segment : PatternSegment} (h : segment.Parsed) :
    segment.source ∈ literals + placeholders := by
  rw [Language.mem_add]
  cases segment with
  | literal value => exact .inl h.2
  | token kind => exact .inr ⟨kind, rfl⟩
  | zeroPaddedToken kind width => exact h.elim

/-- Every word of the language is parsed, whatever stands before it. -/
theorem exists_parseSegments {words : List (List Char)}
    (hwords : ∀ word ∈ words, word ∈ literals + placeholders) (literal : List Char) :
    ∃ segments, parseSegments literal none words.flatten = .ok segments := by
  induction words generalizing literal with
  | nil => exact ⟨_, rfl⟩
  | cons word words ih =>
      obtain ⟨hword, hrest⟩ := List.forall_mem_cons.mp hwords
      rw [List.flatten_cons]
      rcases (Language.mem_add _ _ _).mp hword with hliteral | ⟨token, rfl⟩
      · rw [parseSegments_literal literal hliteral]
        exact ih hrest _
      · obtain ⟨segments, hsegments⟩ := ih hrest []
        have hassoc : '\x7b' :: token.name.toList ++ ['\x7d'] ++ words.flatten =
            '\x7b' :: (token.name.toList ++ '\x7d' :: words.flatten) := by simp
        rw [hassoc, parseSegments_placeholder, hsegments]
        exact ⟨_, rfl⟩

/-- The parser ends on every text without a panic. It accepts the texts made of
literals without a brace and of known tokens in braces, and what it makes of one
spells it. -/
theorem pattern_grammar (pattern : String) :
    ∃ result, ValidatedPattern.parseBytes pattern = some result ∧
      ((∃ parsed, result = .ok parsed) ↔ pattern.toList ∈ (literals + placeholders)∗) ∧
      ∀ parsed, result = .ok parsed →
        parsed.segments.flatMap PatternSegment.source = pattern.toList ∧
        ∀ segment ∈ parsed.segments, segment.Parsed := by
  have hresult : ValidatedPattern.parseBytes pattern = some (ValidatedPattern.parse pattern) := by
    have h := ValidatedPattern.parseFrom_eq [] pattern.toList []
    simp only [List.nil_append] at h
    exact h
  have hspells : ∀ parsed, ValidatedPattern.parse pattern = .ok parsed →
      parsed.segments.flatMap PatternSegment.source = pattern.toList ∧
        ∀ segment ∈ parsed.segments, segment.Parsed := by
    intro parsed hparsed
    obtain ⟨segments, hsegments, rfl⟩ := except_map_eq_ok hparsed
    obtain ⟨hsource, hall⟩ :=
      parseSegments_spells nil_mem_literals (fun h => absurd rfl h) hsegments
    exact ⟨by simpa using hsource, hall⟩
  refine ⟨_, hresult, ⟨?_, ?_⟩, hspells⟩
  · rintro ⟨parsed, hparsed⟩
    obtain ⟨hsource, hall⟩ := hspells parsed hparsed
    rw [Language.mem_kstar]
    refine ⟨parsed.segments.map PatternSegment.source, ?_, ?_⟩
    · rw [← hsource, List.flatMap_def]
    · intro word hword
      obtain ⟨segment, hsegment, rfl⟩ := List.mem_map.mp hword
      exact source_mem (hall segment hsegment)
  · intro hword
    obtain ⟨words, hpattern, hwords⟩ := Language.mem_kstar.mp hword
    obtain ⟨segments, hsegments⟩ := exists_parseSegments hwords []
    refine ⟨⟨segments⟩, ?_⟩
    rw [ValidatedPattern.parse, hpattern, hsegments]
    rfl

end Lamb.Export
