import Lamb.Export.Planner

/-!
The texts an export plan is made of are canonical: each is the one spelling of
the path it names. So the bytes of two final paths relate as their components
do, and joining texts is joining names.
-/

namespace Lamb.Export

open Lamb.Lib Lamb.Lib.Path

/-- Names behind separators, as they stand in a text. -/
def spell (names : List String) : List Char :=
  names.flatMap fun name => '/' :: name.toList

@[simp] theorem spell_nil : spell [] = [] :=
  rfl

@[simp] theorem spell_cons (name : String) (names : List String) :
    spell (name :: names) = '/' :: (name.toList ++ spell names) := by
  simp [spell]

@[simp] theorem spell_append (names more : List String) :
    spell (names ++ more) = spell names ++ spell more := by
  simp [spell]

theorem renderChars_of_ne_nil {names : List String} (h : names ≠ []) :
    renderChars names = spell names := by
  simp [renderChars, spell, h]

theorem toList_render (names : List String) : (render names).toList = renderChars names := by
  simp [render]

/-- A text without a leading separator is spelled by its pieces. -/
theorem cons_eq_spell (chars : List Char) :
    '/' :: chars = spell ((chars.splitOn '/').map String.ofList) := by
  have hsplit : '/' :: chars = (chars.splitOn '/').flatMap ('/' :: ·) := by
    rw [← cons_intercalate_eq_flatMap (List.splitOn_ne_nil '/' chars), List.intercalate_splitOn]
  rw [hsplit, spell, List.flatMap_map]
  simp

theorem not_mem_of_mem_splitOn {chars piece : List Char} (h : piece ∈ chars.splitOn '/') :
    '/' ∉ piece := by
  induction chars generalizing piece with
  | nil =>
      simp only [List.splitOn_nil, List.mem_singleton] at h
      simp [h]
  | cons c chars ih =>
      rw [List.splitOn_cons_eq_if_modifyHead] at h
      split at h
      · rcases List.mem_cons.mp h with rfl | h
        · simp
        · exact ih h
      · rename_i hc
        cases hrest : chars.splitOn '/' with
        | nil => exact absurd hrest (List.splitOn_ne_nil _ _)
        | cons head tail =>
            rw [hrest, List.modifyHead_cons] at h
            rcases List.mem_cons.mp h with rfl | h
            · have hhead : '/' ∉ head := ih (by simp [hrest])
              simp only [beq_iff_eq] at hc
              simp [hhead, Ne.symm hc]
            · exact ih (by simp [hrest, h])

theorem isName_ofList {piece : List Char} (hempty : piece ≠ []) (hdot : piece ≠ ['.'])
    (hdots : piece ≠ ['.', '.']) (hsep : '/' ∉ piece) : IsName (String.ofList piece) := by
  refine ⟨?_, ?_, ?_, by simpa using hsep⟩
  · intro h
    exact hempty (by simpa using congrArg String.toList h)
  · intro h
    exact hdot (by simpa using congrArg String.toList h)
  · intro h
    exact hdots (by simpa using congrArg String.toList h)

/-! ### Output directories -/

/-- An empty piece shows as two separators in a row or as one at the end. -/
theorem piece_ne_nil {chars : List Char} (hlast : ('/' :: chars).getLast? ≠ some '/')
    (hdouble : ¬['/', '/'] <:+: '/' :: chars) : [] ∉ chars.splitOn '/' := by
  intro hmem
  obtain ⟨front, back, hsplit⟩ := List.append_of_mem hmem
  have hchars : '/' :: chars =
      front.flatMap ('/' :: ·) ++ '/' :: back.flatMap ('/' :: ·) := by
    have hjoin : ['/'].intercalate (chars.splitOn '/') = chars := List.intercalate_splitOn '/'
    rw [← hjoin, hsplit, cons_intercalate_eq_flatMap (by simp)]
    simp
  cases back with
  | nil =>
      rw [hchars] at hlast
      simp at hlast
  | cons piece back =>
      refine hdouble ?_
      rw [hchars]
      exact ⟨front.flatMap ('/' :: ·), piece ++ back.flatMap ('/' :: ·), by simp⟩

/-- A valid output directory is spelled by plain names. -/
theorem validateOutputDir_render {text : String} (h : validateOutputDir text = .ok ()) :
    ∃ names : List String, text = render names ∧ (∀ name ∈ names, IsName name) ∧
      nul ∉ text.toList := by
  simp only [validateOutputDir, bind_eq_ok, ensure_eq_ok] at h
  obtain ⟨-, hroot, -, hcanonical, -⟩ := h
  simp only [not_or, not_exists, not_and] at hcanonical
  obtain ⟨hnul, hdouble, htrailing, hdots⟩ := hcanonical
  obtain ⟨chars, htext⟩ : ∃ chars, text.toList = '/' :: chars := by
    cases htext : text.toList with
    | nil => simp [htext] at hroot
    | cons c chars =>
        rw [htext, List.head?_cons, Option.some.injEq] at hroot
        exact ⟨chars, by rw [hroot]⟩
  by_cases hnil : chars = []
  · refine ⟨[], ?_, by simp, hnul⟩
    rw [← String.toList_inj, htext, hnil]
    rfl
  · have hlong : 1 < text.utf8ByteSize := by
      have heq : text = "/" ++ String.ofList chars := by
        rw [← String.toList_inj, htext]
        simp
      have hpos : (String.ofList chars).utf8ByteSize ≠ 0 := by
        rw [Ne, String.utf8ByteSize_eq_zero_iff]
        intro hempty
        exact hnil (by simpa using congrArg String.toList hempty)
      have hone : "/".utf8ByteSize = 1 := rfl
      rw [heq, String.utf8ByteSize_append]
      omega
    rw [htext] at hdouble htrailing
    have hpieces := piece_ne_nil (htrailing hlong) hdouble
    refine ⟨(chars.splitOn '/').map String.ofList, ?_, ?_, hnul⟩
    · rw [← String.toList_inj, htext, toList_render,
        renderChars_of_ne_nil (by simp)]
      exact cons_eq_spell chars
    · intro name hname
      obtain ⟨piece, hpiece, rfl⟩ := List.mem_map.mp hname
      have hdot := hdots piece (by
        rw [htext]
        simp [List.splitOn_cons_eq_if_modifyHead, hpiece])
      exact isName_ofList (fun hempty => hpieces (hempty ▸ hpiece)) hdot.1 hdot.2
        (not_mem_of_mem_splitOn hpiece)

/-! ### Relative texts -/

/-- A valid rendered directory is empty or spelled by plain names. -/
theorem validateRenderedDirectory_spell {directory : String} (hne : directory ≠ "")
    (h : validateRenderedDirectory directory = .ok ()) :
    ∃ names : List String, names ≠ [] ∧ '/' :: directory.toList = spell names ∧
      (∀ name ∈ names, IsName name) ∧ nul ∉ directory.toList := by
  simp only [validateRenderedDirectory, hne, if_false, bind_eq_ok, ensure_eq_ok] at h
  obtain ⟨-, hsafe, hpieces⟩ := h
  simp only [not_or] at hsafe
  refine ⟨(directory.toList.splitOn '/').map String.ofList, ?_, cons_eq_spell _, ?_, hsafe.1⟩
  · simp
  · intro name hname
    obtain ⟨piece, hpiece, rfl⟩ := List.mem_map.mp hname
    obtain ⟨hempty, hdot, hdots⟩ := hpieces piece hpiece
    exact isName_ofList hempty hdot hdots (not_mem_of_mem_splitOn hpiece)

theorem validateFilename_isName {filename : String} (h : validateFilename filename = .ok ()) :
    IsName filename ∧ nul ∉ filename.toList := by
  simp only [validateFilename, ensure_eq_ok, not_or] at h
  obtain ⟨hempty, hdot, hdots, hsep, -, hnul⟩ := h
  exact ⟨⟨hempty, hdot, hdots, hsep⟩, hnul⟩

theorem toList_ne_nil {name : String} (h : IsName name) : name.toList ≠ [] := by
  intro hnil
  exact h.1 (String.toList_inj.mp hnil)

theorem head?_ne_separator {name : String} (h : IsName name) (more : List Char) :
    (name.toList ++ more).head? ≠ some '/' := by
  obtain ⟨c, rest, hname⟩ := List.exists_cons_of_ne_nil (toList_ne_nil h)
  rw [hname, List.cons_append, List.head?_cons]
  rintro ⟨⟩
  exact h.2.2.2 (by simp [hname])

theorem spell_getLast? {names : List String} (hne : names ≠ [])
    (hnames : ∀ name ∈ names, IsName name) : (spell names).getLast? ≠ some '/' := by
  rcases List.eq_nil_or_concat names with rfl | ⟨front, name, rfl⟩
  · exact absurd rfl hne
  · have hname := hnames name (by simp)
    obtain ⟨before, c, hlast⟩ := (List.eq_nil_or_concat name.toList).resolve_left
      (toList_ne_nil hname)
    rw [List.concat_eq_append] at hlast
    have hspell : spell (front.concat name) = (spell front ++ '/' :: before) ++ [c] := by
      simp [hlast]
    have hc : c ≠ '/' := by
      rintro rfl
      exact hname.2.2.2 (by simp [hlast])
    rw [hspell, List.getLast?_concat]
    simpa using hc

/-- Joining a canonical text to a canonical directory. -/
theorem joinPath_render {names more : List String} {path : String}
    (hnames : ∀ name ∈ names, IsName name) (hmore : ∀ name ∈ more, IsName name)
    (hne : more ≠ []) (hpath : '/' :: path.toList = spell more) :
    joinPath (render names) path = render (names ++ more) := by
  obtain ⟨name, rest, rfl⟩ := List.exists_cons_of_ne_nil hne
  have hhead : path.toList.head? ≠ some '/' := by
    simp only [spell_cons, List.cons.injEq, true_and] at hpath
    rw [hpath]
    exact head?_ne_separator (hmore name (by simp)) _
  rw [← String.toList_inj, toList_render, renderChars_of_ne_nil (by simp), spell_append, ← hpath]
  simp only [joinPath, hhead, if_false, endsWithSeparator, toList_render]
  by_cases hroot : names = []
  · subst hroot
    simp [renderChars, toList_render]
  · rw [renderChars_of_ne_nil hroot, if_neg]
    · simp [toList_render, renderChars_of_ne_nil hroot]
    · rintro (hempty | hlast)
      · obtain ⟨first, others, rfl⟩ := List.exists_cons_of_ne_nil hroot
        have := congrArg String.toList hempty
        simp [toList_render, renderChars_of_ne_nil] at this
      · exact spell_getLast? hroot hnames hlast

theorem joinPath_name {names : List String} {name : String} (hnames : ∀ name ∈ names, IsName name)
    (hname : IsName name) : joinPath (render names) name = render (names ++ [name]) :=
  joinPath_render hnames (by simpa using hname) (by simp) (by simp)

/-- Joining the empty path only adds a separator, which the next join uses. -/
theorem joinPath_joinPath_empty {base path : String} (hbase : base ≠ "")
    (hhead : path.toList.head? ≠ some '/') :
    joinPath (joinPath base "") path = joinPath base path := by
  by_cases hsep : endsWithSeparator base
  · have hempty : joinPath base "" = base := by simp [joinPath, hsep]
    rw [hempty]
  · have hempty : joinPath base "" = base ++ "/" := by simp [joinPath, hbase, hsep]
    have hends : endsWithSeparator (base ++ "/") := by simp [endsWithSeparator]
    rw [hempty]
    simp [joinPath, hhead, hbase, hsep, hends]

/-! ### Final paths -/

/-- The text of a validated output, as both planners spell it. -/
theorem finalPath_render {outputDir directory filename : String}
    (hdir : validateOutputDir outputDir = .ok ())
    (hdirectory : validateRenderedDirectory directory = .ok ())
    (hfilename : validateFilename filename = .ok ()) :
    ∃ names relative : List String, outputDir = render names ∧
      (∀ name ∈ names ++ relative ++ [filename], IsName name) ∧
      (directory = "" ∧ relative = [] ∨ '/' :: directory.toList = spell relative) ∧
      joinPath (joinPath outputDir directory) filename = render (names ++ relative ++ [filename]) ∧
      nul ∉ (render (names ++ relative ++ [filename])).toList := by
  obtain ⟨names, rfl, hnames, hnul⟩ := validateOutputDir_render hdir
  obtain ⟨hname, hfileNul⟩ := validateFilename_isName hfilename
  have hone : ∀ name ∈ [filename], IsName name := by simpa using hname
  have hspell : '/' :: filename.toList = spell [filename] := by simp
  have hhead : filename.toList.head? ≠ some '/' := by simpa using head?_ne_separator hname []
  have hspellNul : nul ∉ spell names := by
    by_cases hroot : names = []
    · simp [hroot]
    · rwa [toList_render, renderChars_of_ne_nil hroot] at hnul
  have hslash : nul ≠ '/' := by decide
  by_cases hempty : directory = ""
  · refine ⟨names, [], rfl, ?_, .inl ⟨hempty, rfl⟩, ?_, ?_⟩
    · intro name hmem
      rcases List.mem_append.mp hmem with hmem | hmem
      · exact hnames name (by simpa using hmem)
      · exact hone name hmem
    · have hbase : render names ≠ "" := by
        intro h
        have := congrArg String.toList h
        rw [toList_render] at this
        cases names with
        | nil => simp [renderChars] at this
        | cons name names => simp [renderChars] at this
      rw [hempty, joinPath_joinPath_empty hbase hhead, List.append_nil]
      exact joinPath_name hnames hname
    · rw [toList_render, renderChars_of_ne_nil (by simp)]
      simp [hspellNul, hfileNul, hslash]
  · obtain ⟨relative, hne, hrelative, hrelNames, hrelNul⟩ :=
      validateRenderedDirectory_spell hempty hdirectory
    have hboth : ∀ name ∈ names ++ relative, IsName name := by
      intro name hmem
      rcases List.mem_append.mp hmem with hmem | hmem
      · exact hnames name hmem
      · exact hrelNames name hmem
    refine ⟨names, relative, rfl, ?_, .inr hrelative, ?_, ?_⟩
    · intro name hmem
      rcases List.mem_append.mp hmem with hmem | hmem
      · exact hboth name hmem
      · exact hone name hmem
    · rw [joinPath_render hnames hrelNames hne hrelative]
      exact joinPath_name hboth hname
    · rw [toList_render, renderChars_of_ne_nil (by simp), spell_append, spell_append, ← hrelative,
        ← hspell]
      simp [hspellNul, hfileNul, hrelNul, hslash]

/-! ### Conflicts -/

theorem append_inj_of_separator {left right leftRest rightRest : List Char}
    (hleft : '/' ∉ left) (hright : '/' ∉ right) (hleftRest : leftRest.head? = some '/')
    (hrightRest : rightRest = [] ∨ rightRest.head? = some '/')
    (h : left ++ leftRest = right ++ rightRest) : left = right ∧ leftRest = rightRest := by
  obtain ⟨tail, rfl⟩ : ∃ tail, leftRest = '/' :: tail := by
    cases leftRest with
    | nil => simp at hleftRest
    | cons c tail =>
        rw [List.head?_cons, Option.some.injEq] at hleftRest
        exact ⟨tail, by rw [hleftRest]⟩
  rcases List.append_eq_append_iff.mp h with ⟨middle, hright', hrest⟩ | ⟨middle, hleft', hrest⟩
  · cases middle with
    | nil => exact ⟨by simpa using hright'.symm, by simpa using hrest⟩
    | cons c middle =>
        obtain ⟨rfl, -⟩ := List.cons.inj hrest
        exact absurd (by simp [hright']) hright
  · cases middle with
    | nil => exact ⟨by simpa using hleft', by simpa using hrest.symm⟩
    | cons c middle =>
        rcases hrightRest with hnil | hhead
        · simp [hnil] at hrest
        · rw [hrest, List.cons_append, List.head?_cons, Option.some.injEq] at hhead
          exact absurd (by simp [hleft', hhead]) hleft

/-- Names spelled in front of a separator are the first names of the text. -/
theorem isPrefix_of_spell {names others : List String} {rest : List Char}
    (hnames : ∀ name ∈ names, IsName name) (hothers : ∀ name ∈ others, IsName name)
    (h : spell names ++ '/' :: rest = spell others) : names <+: others := by
  induction names generalizing others with
  | nil => exact List.nil_prefix
  | cons name names ih =>
      cases others with
      | nil => simp at h
      | cons other others =>
          simp only [spell_cons, List.cons_append, List.cons.injEq, true_and,
            List.append_assoc] at h
          have hhead : (spell names ++ '/' :: rest).head? = some '/' := by
            cases names with
            | nil => simp
            | cons name names => simp
          have hothers' : spell others = [] ∨ (spell others).head? = some '/' := by
            cases others with
            | nil => exact .inl rfl
            | cons other others => exact .inr (by simp)
          obtain ⟨hname, hrest⟩ := append_inj_of_separator (hnames name (by simp)).2.2.2
            (hothers other (by simp)).2.2.2 hhead hothers' h
          obtain rfl := String.toList_inj.mp hname
          refine List.prefix_cons_inj _ |>.mpr (ih ?_ ?_ hrest)
          · exact fun name hin => hnames name (by simp [hin])
          · exact fun name hin => hothers name (by simp [hin])

theorem bytesBelow_render {names base : List String} (hnames : ∀ name ∈ names, IsName name)
    (hbase : ∀ name ∈ base, IsName name) (hne : base ≠ []) :
    bytesBelow (render names) (render base) ↔ base <+: names ∧ base ≠ names := by
  simp only [bytesBelow, toList_render, renderChars_of_ne_nil hne]
  constructor
  · rintro ⟨⟨rest, hrest⟩, hsep⟩
    have hnonempty : names ≠ [] := by
      rintro rfl
      obtain ⟨name, base, rfl⟩ := List.exists_cons_of_ne_nil hne
      obtain ⟨c, chars, hname⟩ := List.exists_cons_of_ne_nil (toList_ne_nil (hbase name (by simp)))
      simp [renderChars, hname] at hrest
    rw [← hrest] at hsep
    rw [renderChars_of_ne_nil hnonempty] at hrest
    simp only [List.getElem?_append_right, Nat.le_refl, Nat.sub_self] at hsep
    obtain ⟨c, tail, rfl⟩ : ∃ c tail, rest = c :: tail := by
      cases rest with
      | nil => simp at hsep
      | cons c tail => exact ⟨c, tail, rfl⟩
    obtain rfl : c = '/' := by simpa using hsep
    refine ⟨isPrefix_of_spell hbase hnames hrest, ?_⟩
    rintro rfl
    simpa using congrArg List.length hrest
  · rintro ⟨⟨more, rfl⟩, hproper⟩
    obtain ⟨name, more, rfl⟩ := List.exists_cons_of_ne_nil
      (show more ≠ [] by rintro rfl; simp at hproper)
    rw [renderChars_of_ne_nil (by simp), spell_append]
    exact ⟨List.prefix_append _ _, by simp⟩

theorem render_injective {names others : List String} (hnames : ∀ name ∈ names, IsName name)
    (hothers : ∀ name ∈ others, IsName name) (h : render names = render others) :
    names = others := by
  apply absolute_injective
  rw [← ofText_render hnames, ← ofText_render hothers, h]

theorem pathConflict_render {names others : List String} (hnames : ∀ name ∈ names, IsName name)
    (hothers : ∀ name ∈ others, IsName name) :
    pathConflict (render names) (render others) = true ↔ others <+: names ∨ names <+: others := by
  simp only [pathConflict, pathStartsWith, ofText_render hnames, ofText_render hothers,
    Bool.or_eq_true, startsWith_absolute]

/-- On canonical texts the byte comparisons of the planner are the component
comparisons of the preview. -/
theorem bytes_conflict_iff {names others : List String} (hnames : ∀ name ∈ names, IsName name)
    (hothers : ∀ name ∈ others, IsName name) (hne : names ≠ []) (hne' : others ≠ []) :
    (render others = render names ∨ bytesBelow (render names) (render others) ∨
      bytesBelow (render others) (render names)) ↔
      pathConflict (render names) (render others) = true := by
  rw [pathConflict_render hnames hothers, bytesBelow_render hnames hothers hne',
    bytesBelow_render hothers hnames hne]
  constructor
  · rintro (heq | ⟨hpre, -⟩ | ⟨hpre, -⟩)
    · obtain rfl := render_injective hothers hnames heq
      exact .inl List.prefix_rfl
    · exact .inl hpre
    · exact .inr hpre
  · rintro (hpre | hpre)
    · by_cases heq : others = names
      · exact .inl (by rw [heq])
      · exact .inr (.inl ⟨hpre, heq⟩)
    · by_cases heq : names = others
      · exact .inl (by rw [heq])
      · exact .inr (.inr ⟨hpre, heq⟩)

end Lamb.Export
