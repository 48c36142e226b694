import Lamb.Recovery.Quarantine

/-!
What the cleanup through the quarantine guarantees over any sequence of its calls.
One invariant ties the slot to what stands in the directory: which of the two names
holds the artifact, whose directory the quarantine is, and what has been removed.
Every call keeps it, wherever it stops; and a call that nothing disturbs stops short
of the end only where another object stands in the way.
-/

namespace Lamb.Quarantine

open Lamb.Lib
open Lamb.Recovery (FileIdentity)

/-! ### The invariant -/

/-- The quarantine is the directory the cleanup has made, and holds what the slot says. -/
structure Own (os : Os) (start : World) (expected : FileIdentity) (cell : Cell)
    (directory : Directory) : Prop where
  isDir : directory.isDir = true
  made : directory.identity ∈ cell.world.made
  device : directory.identity.device = start.parentIdentity.device
  uid : directory.uid = os.euid
  unshared : directory.mode &&& 0o077 = 0
  complete : cell.slot.setupComplete = true → directory.mode &&& 0o7777 = quarantineMode
  identity : ∀ identity, cell.slot.identity = some identity → identity = directory.identity
  empty : cell.slot.handoff = false ∨ cell.slot.artifactRemoved = true → directory.artifact = none
  full : cell.slot.handoff = true → cell.slot.artifactRemoved = false → directory.artifact ≠ none
  known : ∀ object, directory.artifact = some object → object.identity = expected →
    start.publicName = some object

structure Inv (os : Os) (start : World) (expected : FileIdentity) (cell : Cell) : Prop where
  parent : cell.world.parentIdentity = start.parentIdentity ∧
    cell.world.parentUid = start.parentUid ∧ cell.world.parentMode = start.parentMode
  retained : ∀ identity, cell.slot.parentIdentity = some identity →
    identity = start.parentIdentity
  removed : ∀ identity ∈ cell.world.removed, identity = expected ∨ identity ∈ cell.world.made
  known : ∀ object, cell.world.publicName = some object → object.identity = expected →
    start.publicName = some object
  fresh : cell.slot.created = false → cell.slot.identity = none ∧ cell.slot.handoff = false ∧
    cell.slot.setupComplete = false ∧ cell.slot.artifactRemoved = false ∧
    cell.slot.removed = false ∧ (start.quarantine = none → cell.world.quarantine = none)
  own : cell.slot.created = true → cell.slot.removed = false →
    ∃ directory, cell.world.quarantine = some directory ∧ Own os start expected cell directory
  gone : cell.slot.removed = true → cell.world.quarantine = none ∧ cell.world.Absent expected
  handed : cell.slot.handoff = true → cell.world.Absent expected
  order : cell.slot.artifactRemoved = true → cell.slot.handoff = true

def Cell.next (os : Os) (cell : Cell) : Cell :=
  { cell with world := os.next cell.world }

section Next

variable (os : Os) (world : World)

@[simp] theorem next_quarantine : (os.next world).quarantine = world.quarantine := by
  unfold Os.next Os.disturb
  cases os.others world <;> rfl

@[simp] theorem next_made : (os.next world).made = world.made := by
  unfold Os.next Os.disturb
  cases os.others world <;> rfl

@[simp] theorem next_removed : (os.next world).removed = world.removed := by
  unfold Os.next Os.disturb
  cases os.others world <;> rfl

@[simp] theorem next_parentIdentity :
    (os.next world).parentIdentity = world.parentIdentity := by
  unfold Os.next Os.disturb
  cases os.others world <;> rfl

@[simp] theorem next_parentUid : (os.next world).parentUid = world.parentUid := by
  unfold Os.next Os.disturb
  cases os.others world <;> rfl

@[simp] theorem next_parentMode : (os.next world).parentMode = world.parentMode := by
  unfold Os.next Os.disturb
  cases os.others world <;> rfl

variable {os world}

/-- Where the object with the identity is found after others came by, it stood before. -/
theorem next_publicName {expected : FileIdentity} (foreign : os.Foreign expected)
    {object : Object} (hobject : (os.next world).publicName = some object)
    (hidentity : object.identity = expected) : world.publicName = some object := by
  unfold Os.next Os.disturb World.tick at hobject
  cases hothers : os.others world with
  | none =>
      rw [hothers] at hobject
      exact hobject
  | some publicName =>
      rw [hothers] at hobject
      change publicName = some object at hobject
      subst hobject
      exact absurd hidentity (foreign world object hothers)

theorem next_publicName_of_quiet (quiet : os.Quiet) :
    (os.next world).publicName = world.publicName := by
  unfold Os.next Os.disturb
  rw [quiet.2 world]
  rfl

theorem World.Absent.next {expected : FileIdentity} (foreign : os.Foreign expected)
    (absent : world.Absent expected) : (os.next world).Absent expected :=
  fun object hobject hidentity =>
    absent object (next_publicName foreign hobject hidentity) hidentity

end Next

section Cleanup

variable {os : Os} {coordinates : Coordinates} {start : World} {expected : FileIdentity}
  {cell : Cell}

theorem Inv.next (inv : Inv os start expected cell) (foreign : os.Foreign expected) :
    Inv os start expected (cell.next os) where
  parent := by
    simpa only [Cell.next, next_parentIdentity, next_parentUid, next_parentMode] using inv.parent
  retained := inv.retained
  removed := by simpa only [Cell.next, next_removed, next_made] using inv.removed
  known := fun object hobject hidentity =>
    inv.known object (next_publicName foreign hobject hidentity) hidentity
  fresh := by simpa only [Cell.next, next_quarantine] using inv.fresh
  own := fun created removed => by
    obtain ⟨directory, hdirectory, own⟩ := inv.own created removed
    refine ⟨directory, ?_, ?_⟩
    · simpa only [Cell.next, next_quarantine] using hdirectory
    · exact { own with made := by simpa only [Cell.next, next_made] using own.made }
  gone := fun removed => by
    refine ⟨?_, (inv.gone removed).2.next foreign⟩
    simpa only [Cell.next, next_quarantine] using (inv.gone removed).1
  handed := fun handoff => (inv.handed handoff).next foreign
  order := inv.order

/-! ### One call -/

section Rules

variable {β : Type} {E : CleanupError → Cell → Prop}

theorem call_ends {operation : World → Except CleanupError (β × World)}
    {Q : Except CleanupError β → Cell → Prop}
    (hfails : os.fails (os.next cell.world) = true → Q (.error .other) (cell.next os))
    (herror : ∀ e, operation (os.next cell.world) = .error e → Q (.error e) (cell.next os))
    (hok : ∀ b world, operation (os.next cell.world) = .ok (b, world) →
      Q (.ok b) { cell with world := world }) :
    Attempt.Ends (call os operation) cell Q E := by
  unfold Attempt.Ends call
  by_cases hfail : os.fails (os.next cell.world) = true
  · simp only [hfail, if_true]
    exact hfails hfail
  · simp only [hfail]
    cases hoperation : operation (os.next cell.world) with
    | error e => exact herror e hoperation
    | ok result => exact hok result.1 result.2 hoperation

theorem query_ends {read : World → Except CleanupError β} {P : Cell → Prop}
    (hP : P (cell.next os)) :
    Attempt.Ends (query os read) cell (fun r cell => P cell ∧
      (r = .error .other ∧ ¬os.Quiet ∨ r = read cell.world)) E := by
  refine call_ends (fun hfails => ⟨hP, .inl ⟨rfl, fun quiet => ?_⟩⟩) (fun e he => ?_)
    fun b world hb => ?_
  · rw [quiet.1] at hfails
    cases hfails
  · cases hread : read (os.next cell.world) with
    | ok b =>
        rw [hread] at he
        cases he
    | error e' =>
        rw [hread] at he
        cases he
        exact ⟨hP, .inr hread.symm⟩
  · cases hread : read (os.next cell.world) with
    | error e =>
        rw [hread] at hb
        cases hb
    | ok b' =>
        rw [hread] at hb
        cases hb
        exact ⟨hP, .inr hread.symm⟩

theorem orFail_ends {attempt : Cleanup (Except CleanupError β)} {Q : β → Cell → Prop}
    (h : Attempt.Ends attempt cell (fun r cell => (∀ b, r = .ok b → Q b cell) ∧
      ∀ e, r = .error e → E e cell) E) :
    Attempt.Ends (orFail attempt) cell Q E := by
  refine .bind h fun r cell hr => ?_
  cases r with
  | ok b => exact .pure (hr.1 b rfl)
  | error e => exact .fail (hr.2 e rfl)

theorem orFail_query_ends {read : World → Except CleanupError β} {P : Cell → Prop}
    (hP : P (cell.next os))
    (hE : ∀ e, (os.Quiet → read (cell.next os).world = .error e) → E e (cell.next os)) :
    Attempt.Ends (orFail (query os read)) cell
      (fun b cell => P cell ∧ read cell.world = .ok b) E := by
  refine orFail_ends ((query_ends (P := fun c => c = cell.next os) rfl).mono ?_ fun _ _ h => h)
  rintro r _ ⟨rfl, ⟨rfl, hquiet⟩ | hr⟩
  · refine ⟨nofun, fun e he => hE e fun quiet => absurd quiet hquiet⟩
  · exact ⟨fun b hb => ⟨hP, hr.symm.trans hb⟩, fun e he => hE e fun _ => hr.symm.trans he⟩

theorem orFail_onOpenFile_ends {P : Cell → Prop} (hP : P (cell.next os))
    (hE : ∀ e, ¬os.Quiet → E e (cell.next os)) :
    Attempt.Ends (orFail (onOpenFile os)) cell (fun _ => P) E := by
  refine (orFail_query_ends hP fun e he => hE e fun quiet => ?_).mono (fun _ _ h => h.1)
    fun _ _ h => h
  cases he quiet

end Rules

/-! ### The cleanup, function by function -/

/-- Nothing stands in the way of the cleanup. -/
def Undisturbed (os : Os) (coordinates : Coordinates) (expected : FileIdentity)
    (start : World) : Prop :=
  os.Quiet ∧ Usable os coordinates expected start

def Failed (os : Os) (coordinates : Coordinates) (start : World) (expected : FileIdentity)
    (_ : CleanupError) (cell : Cell) : Prop :=
  Inv os start expected cell ∧ ¬Undisturbed os coordinates expected start

def Ended (os : Os) (coordinates : Coordinates) (start : World) (expected : FileIdentity)
    (success : Bool) (cell : Cell) : Prop :=
  Inv os start expected cell ∧ (success = true → cell.slot.removed = true) ∧
    (success = false → Undisturbed os coordinates expected start → cell.Blocked expected)

theorem Ended.of_disturbed (inv : Inv os start expected cell)
    (disturbed : ¬Undisturbed os coordinates expected start) :
    Ended os coordinates start expected false cell :=
  ⟨inv, nofun, fun _ undisturbed => absurd undisturbed disturbed⟩

/-- The cleanup has its quarantine. -/
structure Opened (os : Os) (start : World) (expected : FileIdentity) (cell : Cell) : Prop where
  inv : Inv os start expected cell
  created : cell.slot.created = true
  kept : cell.slot.removed = false
  identity : cell.slot.identity ≠ none

theorem Opened.next (opened : Opened os start expected cell) (foreign : os.Foreign expected) :
    Opened os start expected (cell.next os) :=
  ⟨opened.inv.next foreign, opened.created, opened.kept, opened.identity⟩

theorem Opened.own (opened : Opened os start expected cell) :
    ∃ directory, cell.world.quarantine = some directory ∧
      Own os start expected cell directory :=
  opened.inv.own opened.created opened.kept

theorem Own.directory {directory : Directory} (own : Own os start expected cell directory)
    (hdirectory : cell.world.quarantine = some directory) :
    cell.world.directory = .ok directory := by
  unfold World.directory
  rw [hdirectory]
  exact if_pos own.isDir

theorem retainAndValidateQuarantineParent_ends {P : Cell → Prop}
    (inv : Inv os start expected cell) (foreign : os.Foreign expected)
    (hP : P (cell.next os))
    (hretained : ∀ cell : Cell, P cell → P { cell with
      slot := { cell.slot with parentIdentity := some start.parentIdentity } }) :
    Attempt.Ends (retainAndValidateQuarantineParent os) cell
      (fun valid cell => (Inv os start expected cell ∧ P cell) ∧
        (valid = false → ¬Undisturbed os coordinates expected start))
      (Failed os coordinates start expected) := by
  refine .bind (orFail_query_ends (P := fun cell => Inv os start expected cell ∧ P cell)
    ⟨inv.next foreign, hP⟩ fun e he => ⟨inv.next foreign, fun h => nomatch he h.1⟩) ?_
  rintro _ cell ⟨⟨inv, hP⟩, hread⟩
  cases hread
  refine .bindOk (b := cell.slot) rfl ?_
  have htrusted : ¬(cell.world.parentUid = os.euid ∧ cell.world.parentMode &&& 0o022 = 0) →
      ¬Undisturbed os coordinates expected start := by
    rintro hno ⟨-, usable⟩
    rw [inv.parent.2.1, inv.parent.2.2] at hno
    exact hno ⟨usable.owner, usable.unshared⟩
  cases hparent : cell.slot.parentIdentity with
  | some identity =>
      refine .pure ⟨⟨inv, hP⟩, fun hvalid => htrusted fun trusted => ?_⟩
      have hidentity : identity = cell.world.parentIdentity :=
        (inv.retained identity hparent).trans inv.parent.1.symm
      exact absurd (And.intro hidentity trusted) (of_decide_eq_false hvalid)
  | none =>
      refine .bindModify (.pure ⟨⟨?_, ?_⟩, fun hvalid => htrusted (of_decide_eq_false hvalid)⟩)
      · exact { inv with
          retained := fun identity hidentity => by
            cases hidentity
            exact inv.parent.1
          own := fun created removed => by
            obtain ⟨directory, hdirectory, own⟩ := inv.own created removed
            exact ⟨directory, hdirectory, { own with }⟩ }
      · change P { cell with
          slot := { cell.slot with parentIdentity := some cell.world.parentIdentity } }
        rw [inv.parent.1]
        exact hretained cell hP

/-- The quarantine is there and empty, and the artifact is gone from its name. -/
structure Emptied (os : Os) (start : World) (expected : FileIdentity) (cell : Cell) : Prop
    extends Opened os start expected cell where
  empty : cell.slot.handoff = false ∨ cell.slot.artifactRemoved = true
  absent : cell.world.Absent expected

theorem Emptied.next (emptied : Emptied os start expected cell)
    (foreign : os.Foreign expected) : Emptied os start expected (cell.next os) :=
  ⟨emptied.toOpened.next foreign, emptied.empty, emptied.absent.next foreign⟩

theorem Emptied.remove (emptied : Emptied os start expected cell) {directory : Directory}
    (own : Own os start expected cell directory) :
    Inv os start expected
      { world := { cell.world with
          quarantine := none
          removed := directory.identity :: cell.world.removed }
        slot := { cell.slot with removed := true } } :=
  { emptied.inv with
    removed := fun identity hidentity => by
      rcases List.mem_cons.mp hidentity with rfl | hidentity
      · exact .inr own.made
      · exact emptied.inv.removed identity hidentity
    fresh := fun created => by
      rw [emptied.created] at created
      cases created
    own := nofun
    gone := fun _ => ⟨rfl, emptied.absent⟩
    handed := fun _ => emptied.absent }

theorem removeEmptyQuarantine_ends (emptied : Emptied os start expected cell)
    (foreign : os.Foreign expected) :
    Attempt.Ends (removeEmptyQuarantine os) cell (Ended os coordinates start expected)
      (Failed os coordinates start expected) := by
  refine .bindOk (b := cell.slot) rfl ?_
  cases hauthority : cell.slot.identity with
  | none => exact absurd hauthority emptied.identity
  | some authority =>
      have hfailed : ∀ e (cell : Cell), Emptied os start expected cell → ¬os.Quiet →
          Failed os coordinates start expected e cell :=
        fun e cell emptied hquiet => ⟨emptied.inv, fun h => hquiet h.1⟩
      refine .bind (orFail_onOpenFile_ends
        (P := fun cell => Emptied os start expected cell ∧ cell.slot.identity = some authority)
        ⟨emptied.next foreign, hauthority⟩
        fun e => hfailed e _ (emptied.next foreign)) ?_
      rintro - cell ⟨emptied, hauthority⟩
      refine .bind (retainAndValidateQuarantineParent_ends
        (P := fun cell => Emptied os start expected cell ∧ cell.slot.identity = some authority)
        emptied.inv foreign ⟨emptied.next foreign, hauthority⟩ ?_) ?_
      · rintro cell ⟨emptied, hauthority⟩
        refine ⟨⟨⟨?_, emptied.created, emptied.kept, emptied.identity⟩, emptied.empty,
          emptied.absent⟩, hauthority⟩
        exact { emptied.inv with
          retained := fun identity hidentity => by
            cases hidentity
            rfl
          own := fun created removed => by
            obtain ⟨directory, hdirectory, own⟩ := emptied.inv.own created removed
            exact ⟨directory, hdirectory, { own with }⟩ }
      rintro valid cell ⟨⟨inv, emptied, hauthority⟩, hvalid⟩
      refine .ite (fun h => .pure (.of_disturbed inv (hvalid h))) fun _ => ?_
      -- The directory is read twice, through its handle and under its name.
      have hread : ∀ {cell : Cell}, Emptied os start expected cell →
          ∀ e, (os.Quiet → (cell.next os).world.directory = .error e) →
            Failed os coordinates start expected e (cell.next os) := by
        intro cell emptied e he
        refine hfailed e _ (emptied.next foreign) fun quiet => ?_
        obtain ⟨directory, hdirectory, own⟩ := (emptied.next foreign).own
        rw [own.directory hdirectory] at he
        cases he quiet
      have hsame : ∀ {cell : Cell} {directory : Directory}, Emptied os start expected cell →
          cell.slot.identity = some authority → cell.world.directory = .ok directory →
          cell.world.quarantine = some directory ∧ Own os start expected cell directory ∧
            directory.identity = authority := by
        intro cell directory emptied hauthority hdirectory
        obtain ⟨directory', hdirectory', own⟩ := emptied.own
        rw [own.directory hdirectory'] at hdirectory
        cases hdirectory
        exact ⟨hdirectory', own, (own.identity authority hauthority).symm⟩
      refine .bind (orFail_query_ends
        (P := fun cell => Emptied os start expected cell ∧ cell.slot.identity = some authority)
        ⟨emptied.next foreign, hauthority⟩ (hread emptied)) ?_
      rintro directory cell ⟨⟨emptied, hauthority⟩, hdirectory⟩
      refine .ite (fun hne => absurd (hsame emptied hauthority hdirectory).2.2 hne) fun _ => ?_
      refine .bind (query_ends
        (P := fun cell => Emptied os start expected cell ∧ cell.slot.identity = some authority)
        ⟨emptied.next foreign, hauthority⟩) ?_
      rintro r cell ⟨⟨emptied, hauthority⟩, ⟨rfl, hquiet⟩ | rfl⟩
      · exact .fail (hfailed _ _ emptied hquiet)
      obtain ⟨directory, hdirectory, own⟩ := emptied.own
      have hidentity := (hsame emptied hauthority (own.directory hdirectory)).2.2
      rw [own.directory hdirectory]
      refine .ite (fun hne => absurd hidentity hne) fun _ => ?_
      -- The removal itself finds the directory of the cleanup, and finds it empty.
      have hremove := emptied.next foreign
      obtain ⟨directory, hdirectory, own⟩ := hremove.own
      have hartifact := own.empty hremove.empty
      have hopened : (os.next cell.world).directory = .ok directory := own.directory hdirectory
      refine .bind (Q := fun r cell => (r = .error .other ∧
          Failed os coordinates start expected .other cell) ∨
        (r = .ok () ∧ Inv os start expected
          { cell with slot := { cell.slot with removed := true } })) (call_ends ?_ ?_ ?_) ?_
      · intro hfails
        refine .inl ⟨rfl, hfailed _ _ hremove fun quiet => ?_⟩
        rw [quiet.1] at hfails
        cases hfails
      · intro e he
        simp only [hopened, hartifact, Option.isSome_none, Bool.false_eq_true, if_false] at he
        cases he
      · intro b world hworld
        simp only [hopened, hartifact, Option.isSome_none, Bool.false_eq_true, if_false] at hworld
        cases hworld
        exact .inr ⟨rfl, hremove.remove own⟩
      · rintro r cell (⟨rfl, failed⟩ | ⟨rfl, inv⟩)
        · exact .fail failed
        · refine .bindModify (.bind (orFail_onOpenFile_ends
            (P := fun cell => Inv os start expected cell ∧ cell.slot.removed = true)
            ⟨inv.next foreign, rfl⟩
            fun e hquiet => ⟨inv.next foreign, fun h => hquiet h.1⟩) ?_)
          rintro - cell ⟨inv, removed⟩
          exact .pure ⟨inv, fun _ => removed, by simp⟩

/-- The artifact is in the quarantine. -/
structure Handed (os : Os) (start : World) (expected : FileIdentity) (cell : Cell) : Prop
    extends Opened os start expected cell where
  handoff : cell.slot.handoff = true
  stays : cell.slot.artifactRemoved = false

theorem Handed.next (handed : Handed os start expected cell) (foreign : os.Foreign expected) :
    Handed os start expected (cell.next os) :=
  ⟨handed.toOpened.next foreign, handed.handoff, handed.stays⟩

/-- The artifact in the quarantine is the expected one. -/
structure Private (os : Os) (start : World) (expected : FileIdentity) (cell : Cell) : Prop
    extends Handed os start expected cell where
  artifact : ∃ directory object, cell.world.quarantine = some directory ∧
    directory.artifact = some object ∧ object.identity = expected

theorem Private.next (own : Private os start expected cell) (foreign : os.Foreign expected) :
    Private os start expected (cell.next os) := by
  refine ⟨own.toHanded.next foreign, ?_⟩
  simpa only [Cell.next, next_quarantine] using own.artifact

theorem Handed.remove (handed : Handed os start expected cell) {directory : Directory}
    {object : Object} (own : Own os start expected cell directory)
    (hobject : object.identity = expected) :
    Emptied os start expected
      { world := { cell.world with
          quarantine := some { directory with artifact := none }
          removed := object.identity :: cell.world.removed }
        slot := { cell.slot with artifactRemoved := true } } :=
  { inv := { handed.inv with
      removed := fun identity hidentity => by
        rcases List.mem_cons.mp hidentity with rfl | hidentity
        · exact .inl hobject
        · exact handed.inv.removed identity hidentity
      fresh := fun created => by
        rw [handed.created] at created
        cases created
      own := fun _ _ => ⟨{ directory with artifact := none }, rfl, { own with
        empty := fun _ => rfl
        full := fun _ => nofun
        known := nofun }⟩
      gone := fun removed => by
        rw [handed.kept] at removed
        cases removed
      order := fun _ => handed.handoff }
    created := handed.created
    kept := handed.kept
    identity := handed.identity
    empty := .inr rfl
    absent := handed.inv.handed handed.handoff }

theorem unlinkPrivate_ends (own : Private os start expected cell)
    (foreign : os.Foreign expected) :
    Attempt.Ends (unlinkPrivate os) cell (Ended os coordinates start expected)
      (Failed os coordinates start expected) := by
  have hnext := own.next foreign
  obtain ⟨directory, object, hdirectory, hartifact, hobject⟩ := hnext.artifact
  obtain ⟨directory', hdirectory', mine⟩ := hnext.own
  cases hdirectory.symm.trans hdirectory'
  have hopened : (os.next cell.world).directory = .ok directory := mine.directory hdirectory
  refine .bind (Q := fun r cell =>
    (∃ e, r = .error e ∧ Failed os coordinates start expected e cell) ∨
    (r = .ok () ∧ Emptied os start expected
      { cell with slot := { cell.slot with artifactRemoved := true } })) (call_ends ?_ ?_ ?_) ?_
  · intro hfails
    refine .inl ⟨_, rfl, hnext.inv, fun h => ?_⟩
    rw [h.1.1] at hfails
    cases hfails
  · intro e he
    simp only [hopened, hartifact] at he
    refine .inl ⟨e, rfl, hnext.inv, fun h => ?_⟩
    rw [h.2.file object (mine.known object hartifact hobject) hobject] at he
    cases he
  · intro b world hworld
    simp only [hopened, hartifact] at hworld
    cases hdir : object.isDir with
    | true =>
        rw [hdir] at hworld
        cases hworld
    | false =>
        rw [hdir] at hworld
        cases hworld
        exact .inr ⟨rfl, hnext.toHanded.remove mine hobject⟩
  · rintro r cell (⟨e, rfl, failed⟩ | ⟨rfl, emptied⟩)
    · cases e with
      | notFound => exact .pure (.of_disturbed failed.1 failed.2)
      | directoryNotEmpty => exact .pure (.of_disturbed failed.1 failed.2)
      | alreadyExists => exact .fail failed
      | invalidInput => exact .fail failed
      | other => exact .fail failed
    · refine .bindModify (.bind (orFail_onOpenFile_ends
        (P := Emptied os start expected) (emptied.next foreign)
        fun e hquiet => ⟨(emptied.next foreign).inv, fun h => hquiet h.1⟩) ?_)
      intro _ cell emptied
      exact removeEmptyQuarantine_ends emptied foreign

theorem checkPrivate_ends (handed : Handed os start expected cell)
    (foreign : os.Foreign expected) {next : Cleanup Bool}
    (hnext : ∀ cell, Private os start expected cell →
      Attempt.Ends next cell (Ended os coordinates start expected)
        (Failed os coordinates start expected)) :
    Attempt.Ends (checkPrivate os expected next) cell (Ended os coordinates start expected)
      (Failed os coordinates start expected) := by
  refine .bind (query_ends (P := Handed os start expected) (handed.next foreign)) ?_
  rintro r cell ⟨handed, ⟨rfl, hquiet⟩ | rfl⟩
  · exact .fail ⟨handed.inv, fun h => hquiet h.1⟩
  obtain ⟨directory, hdirectory, own⟩ := handed.own
  rw [own.directory hdirectory]
  cases hartifact : directory.artifact with
  | none => exact absurd hartifact (own.full handed.handoff handed.stays)
  | some object =>
      have hread : (Except.ok directory).bind (fun directory => identityAt directory.artifact) =
          .ok object.identity := by
        rw [Except.bind, hartifact, identityAt]
      rw [hread]
      refine .ite (fun hobject => ?_) fun hobject => ?_
      · exact hnext cell ⟨handed, directory, object, hdirectory, hartifact, hobject⟩
      · exact .pure ⟨handed.inv, by simp, fun _ _ =>
          .inr ⟨handed.handoff, directory, object, hdirectory, hartifact, hobject⟩⟩

theorem resolvePrivateArtifact_ends (opened : Opened os start expected cell)
    (handoff : cell.slot.handoff = true) (foreign : os.Foreign expected) :
    Attempt.Ends (resolvePrivateArtifact os expected) cell
      (Ended os coordinates start expected) (Failed os coordinates start expected) := by
  refine .bindOk (b := cell.slot) rfl (.ite (fun hremoved => ?_) fun hremoved => ?_)
  · exact removeEmptyQuarantine_ends
      ⟨opened, .inr hremoved, opened.inv.handed handoff⟩ foreign
  · refine checkPrivate_ends ⟨opened, handoff, Bool.eq_false_iff.mpr hremoved⟩ foreign
      fun cell own => ?_
    refine .bind (orFail_onOpenFile_ends (P := Private os start expected) (own.next foreign)
      fun e hquiet => ⟨(own.next foreign).inv, fun h => hquiet h.1⟩) ?_
    intro _ cell own
    exact checkPrivate_ends own.toHanded foreign fun cell own => unlinkPrivate_ends own foreign

/-- What `renameToQuarantine` leaves, once the slot says so. -/
theorem Opened.handOver (opened : Opened os start expected cell)
    (handoff : cell.slot.handoff = false) {directory : Directory} {object : Object}
    (own : Own os start expected cell directory)
    (hobject : cell.world.publicName = some object) :
    Opened os start expected
      { world := { cell.world with
          publicName := none
          quarantine := some { directory with artifact := some object } }
        slot := { cell.slot with handoff := true } } :=
  { inv := { opened.inv with
      known := nofun
      fresh := fun created => by
        rw [opened.created] at created
        cases created
      own := fun _ _ => ⟨{ directory with artifact := some object }, rfl, { own with
        empty := fun h => by
          rcases h with h | h
          · cases h
          · rw [opened.inv.order h] at handoff
            cases handoff
        full := fun _ _ => nofun
        known := fun object' hobject' hidentity => by
          cases hobject'
          exact opened.inv.known object hobject hidentity }⟩
      gone := fun removed => by
        rw [opened.kept] at removed
        cases removed
      handed := fun _ => nofun
      order := fun _ => rfl }
    created := opened.created
    kept := opened.kept
    identity := opened.identity }

theorem renameToQuarantine_ends (opened : Opened os start expected cell)
    (handoff : cell.slot.handoff = false) (foreign : os.Foreign expected)
    (present : ∃ object, cell.world.publicName = some object) :
    Attempt.Ends (renameToQuarantine os) cell
      (fun r cell => (∃ e, r = .error e ∧ Failed os coordinates start expected e cell) ∨
        (r = .ok () ∧ Opened os start expected
          { cell with slot := { cell.slot with handoff := true } }))
      (Failed os coordinates start expected) := by
  have hnext := opened.next foreign
  obtain ⟨directory, hdirectory, own⟩ := hnext.own
  have hoperation : (os.next cell.world).directory = .ok directory := own.directory hdirectory
  have hartifact := own.empty (.inl handoff)
  refine call_ends ?_ ?_ ?_
  · intro hfails
    refine .inl ⟨_, rfl, hnext.inv, fun h => ?_⟩
    rw [h.1.1] at hfails
    cases hfails
  · intro e he
    refine .inl ⟨e, rfl, hnext.inv, fun h => ?_⟩
    obtain ⟨object, hobject⟩ := present
    simp only [hoperation, next_publicName_of_quiet h.1, hobject, hartifact,
      Option.isSome_none, Bool.false_eq_true, if_false] at he
    cases he
  · intro b world hworld
    cases hobject : (os.next cell.world).publicName with
    | none =>
        simp only [hoperation, hobject] at hworld
        cases hworld
    | some object =>
        simp only [hoperation, hobject, hartifact, Option.isSome_none, Bool.false_eq_true,
          if_false] at hworld
        cases hworld
        exact .inr ⟨rfl, hnext.handOver handoff own hobject⟩

theorem handOff_ends (opened : Opened os start expected cell)
    (handoff : cell.slot.handoff = false) (foreign : os.Foreign expected) :
    Attempt.Ends (handOff os expected) cell (Ended os coordinates start expected)
      (Failed os coordinates start expected) := by
  refine .bind (query_ends
    (P := fun cell => Opened os start expected cell ∧ cell.slot.handoff = false)
    ⟨opened.next foreign, handoff⟩) ?_
  rintro r cell ⟨⟨opened, handoff⟩, ⟨rfl, hquiet⟩ | rfl⟩
  · exact .fail ⟨opened.inv, fun h => hquiet h.1⟩
  obtain ⟨directory, hdirectory, own⟩ := opened.own
  rw [own.directory hdirectory]
  simp only [Except.bind, own.empty (.inl handoff), identityAt]
  refine .bind (query_ends
    (P := fun cell => Opened os start expected cell ∧ cell.slot.handoff = false)
    ⟨opened.next foreign, handoff⟩) ?_
  rintro r cell ⟨⟨opened, handoff⟩, ⟨rfl, hquiet⟩ | rfl⟩
  · exact .fail ⟨opened.inv, fun h => hquiet h.1⟩
  cases hobject : cell.world.publicName with
  | none =>
      refine removeEmptyQuarantine_ends ⟨opened, .inl handoff, ?_⟩ foreign
      intro object hsome
      rw [hobject] at hsome
      cases hsome
  | some object =>
      refine .ite (fun hne => ?_) fun heq => ?_
      · exact .pure ⟨opened.inv, nofun, fun _ _ => .inl ⟨handoff, object, hobject, hne⟩⟩
      · refine .bind (renameToQuarantine_ends opened handoff foreign ⟨object, hobject⟩) ?_
        rintro r cell (⟨e, rfl, failed⟩ | ⟨rfl, opened⟩)
        · cases e with
          | notFound => exact .pure (.of_disturbed failed.1 failed.2)
          | alreadyExists => exact .pure (.of_disturbed failed.1 failed.2)
          | directoryNotEmpty => exact .fail failed
          | invalidInput => exact .fail failed
          | other => exact .fail failed
        · refine .bindModify (.bind (orFail_onOpenFile_ends
            (P := fun cell => Opened os start expected cell ∧ cell.slot.handoff = true)
            ⟨opened.next foreign, rfl⟩
            fun e hquiet => ⟨(opened.next foreign).inv, fun h => hquiet h.1⟩) ?_)
          rintro - cell ⟨opened, handoff⟩
          exact resolvePrivateArtifact_ends opened handoff foreign

/-- What opening the quarantine gives. -/
def OpenedWhen (os : Os) (coordinates : Coordinates) (start : World) (expected : FileIdentity)
    (opened : Bool) (cell : Cell) : Prop :=
  Inv os start expected cell ∧ (opened = true → Opened os start expected cell) ∧
    (opened = false → ¬Undisturbed os coordinates expected start)

theorem quarantineMode_unshared : quarantineMode &&& 0o077 = 0 := by
  decide

theorem quarantineMode_complete : quarantineMode &&& 0o7777 = quarantineMode := by
  decide

/-- The quarantine after `fchmod`. -/
theorem Opened.changeMode (opened : Opened os start expected cell) {directory : Directory}
    (own : Own os start expected cell directory) :
    Opened os start expected { cell with world := { cell.world with
      quarantine := some { directory with mode := quarantineMode } } } :=
  { inv := { opened.inv with
      fresh := fun created => by
        rw [opened.created] at created
        cases created
      own := fun _ _ => ⟨{ directory with mode := quarantineMode }, rfl, { own with
        unshared := quarantineMode_unshared
        complete := fun _ => quarantineMode_complete }⟩
      gone := fun removed => by
        rw [opened.kept] at removed
        cases removed }
    created := opened.created
    kept := opened.kept
    identity := opened.identity }

theorem normalizeQuarantine_ends (opened : Opened os start expected cell)
    (foreign : os.Foreign expected) {directory : Directory}
    (hdirectory : cell.world.quarantine = some directory) :
    Attempt.Ends (normalizeQuarantine os start.parentIdentity.device directory) cell
      (OpenedWhen os coordinates start expected) (Failed os coordinates start expected) := by
  have hown : ∀ {cell : Cell} {directory : Directory}, Opened os start expected cell →
      cell.world.quarantine = some directory → Own os start expected cell directory := by
    intro cell directory opened hdirectory
    obtain ⟨directory', hdirectory', own⟩ := opened.own
    cases hdirectory.symm.trans hdirectory'
    exact own
  refine .bindOk (b := cell.slot) rfl (.ite (fun hcomplete => ?_) fun _ => ?_)
  · refine .pure ⟨opened.inv, fun _ => opened, fun hmode => ?_⟩
    exact absurd ((hown opened hdirectory).complete hcomplete) (of_decide_eq_false hmode)
  · have hnext := opened.next foreign
    have hdirectory' : (cell.next os).world.quarantine = some directory := by
      simpa only [Cell.next, next_quarantine] using hdirectory
    have own := hown hnext hdirectory'
    have hoperation : (os.next cell.world).directory = .ok directory :=
      own.directory hdirectory'
    refine .bind (Q := fun _ cell => Opened os start expected cell ∧
      cell.world.quarantine = some { directory with mode := quarantineMode })
      (orFail_ends (call_ends ?_ ?_ ?_)) ?_
    · refine fun hfails => ⟨nofun, fun e he => ⟨hnext.inv, fun h => ?_⟩⟩
      rw [h.1.1] at hfails
      cases hfails
    · intro e he
      simp only [hoperation] at he
      cases he
    · intro b world hworld
      simp only [hoperation] at hworld
      cases hworld
      exact ⟨fun _ _ => ⟨hnext.changeMode own, rfl⟩, nofun⟩
    · rintro - cell ⟨opened, hdirectory⟩
      refine .bind (orFail_query_ends (P := fun cell => Opened os start expected cell ∧
        cell.world.quarantine = some { directory with mode := quarantineMode })
        ⟨opened.next foreign, ?_⟩ fun e he => ⟨(opened.next foreign).inv, fun h => ?_⟩) ?_
      · simpa only [Cell.next, next_quarantine] using hdirectory
      · obtain ⟨directory, hdirectory, own⟩ := (opened.next foreign).own
        rw [own.directory hdirectory] at he
        cases he h.1
      · rintro normalized cell ⟨⟨opened, hdirectory⟩, hnormalized⟩
        have own := hown opened hdirectory
        rw [own.directory hdirectory] at hnormalized
        cases hnormalized
        refine .ite (fun hwrong => ?_) fun _ => ?_
        · rcases hwrong with h | h | h | h
          · exact absurd rfl h
          · exact absurd own.device h
          · exact absurd own.uid h
          · exact absurd quarantineMode_complete h
        · refine .bind (orFail_onOpenFile_ends (P := fun cell => Opened os start expected cell ∧
            cell.world.quarantine = some { directory with mode := quarantineMode })
            ⟨opened.next foreign, ?_⟩
            fun e hquiet => ⟨(opened.next foreign).inv, fun h => hquiet h.1⟩) ?_
          · simpa only [Cell.next, next_quarantine] using hdirectory
          · rintro - cell ⟨opened, hdirectory⟩
            have complete : Opened os start expected
                { cell with slot := { cell.slot with setupComplete := true } } :=
              { opened with
                inv := { opened.inv with
                  fresh := fun created => by
                    rw [opened.created] at created
                    cases created
                  own := fun _ _ => ⟨_, hdirectory, { hown opened hdirectory with
                    complete := fun _ => quarantineMode_complete }⟩ } }
            exact .bindModify (.pure ⟨complete.inv, fun _ => complete, nofun⟩)

theorem inspectQuarantine_ends (inv : Inv os start expected cell)
    (created : cell.slot.created = true) (kept : cell.slot.removed = false)
    (foreign : os.Foreign expected) :
    Attempt.Ends (inspectQuarantine os) cell (OpenedWhen os coordinates start expected)
      (Failed os coordinates start expected) := by
  let Made := fun cell : Cell => Inv os start expected cell ∧ cell.slot.created = true ∧
    cell.slot.removed = false
  have hnext : ∀ {cell : Cell}, Made cell → Made (cell.next os) :=
    fun made => ⟨made.1.next foreign, made.2⟩
  have hread : ∀ {cell : Cell}, Made cell → ∀ e,
      (os.Quiet → (cell.next os).world.directory = .error e) →
        Failed os coordinates start expected e (cell.next os) := by
    intro cell made e he
    refine ⟨(hnext made).1, fun h => ?_⟩
    obtain ⟨directory, hdirectory, own⟩ := (hnext made).1.own made.2.1 made.2.2
    rw [own.directory hdirectory] at he
    cases he h.1
  have made : Made cell := ⟨inv, created, kept⟩
  refine .bind (orFail_query_ends (P := Made) (hnext made) (hread made)) ?_
  rintro - cell ⟨made, -⟩
  refine .bind (orFail_query_ends (P := Made) (hnext made)
    fun e he => ⟨(hnext made).1, fun h => nomatch he h.1⟩) ?_
  rintro parent cell ⟨made, hparent⟩
  cases hparent.symm.trans (congrArg Except.ok made.1.parent.1)
  refine .bind (orFail_query_ends (P := Made) (hnext made) (hread made)) ?_
  rintro directory cell ⟨⟨inv, created, kept⟩, hread⟩
  obtain ⟨directory', hdirectory, own⟩ := inv.own created kept
  rw [own.directory hdirectory] at hread
  cases hread
  refine .bindOk (b := cell.slot) rfl (.ite (fun hwrong => ?_) fun _ => ?_)
  · rcases hwrong with h | h | h | h
    · exact absurd own.device h
    · exact absurd own.uid h
    · exact absurd own.unshared h
    · obtain ⟨identity, hidentity, hne⟩ := (Option.any_eq_true _ _).mp h
      exact absurd (own.identity identity hidentity) (of_decide_eq_true hne)
  · let named : Cell := { cell with
      slot := { cell.slot with
        identity := some (cell.slot.identity.getD directory.identity) } }
    have hinv : Inv os start expected named := { inv with
      fresh := fun h => by
        rw [show cell.slot.created = false from h] at created
        cases created
      own := fun _ _ => ⟨directory, hdirectory, { own with
        identity := fun identity hidentity => by
          cases hidentity
          cases hslot : cell.slot.identity with
          | none => rfl
          | some identity => exact own.identity identity hslot }⟩ }
    have opened : Opened os start expected named :=
      ⟨hinv, created, kept, Option.some_ne_none _⟩
    exact .bindModify (normalizeQuarantine_ends opened foreign hdirectory)

theorem openAuthoritativeQuarantine_ends (inv : Inv os start expected cell)
    (kept : cell.slot.removed = false) (foreign : os.Foreign expected) :
    Attempt.Ends (openAuthoritativeQuarantine os) cell
      (OpenedWhen os coordinates start expected) (Failed os coordinates start expected) := by
  refine .bindOk (b := cell.slot) rfl (.ite (fun hcreated => ?_) fun hcreated => ?_)
  · exact inspectQuarantine_ends inv hcreated kept foreign
  · have hnext := inv.next foreign
    have hcreated := Bool.eq_false_iff.mpr hcreated
    obtain ⟨hidentity, hhandoff, hcomplete, hremoved, -, hfree⟩ := hnext.fresh hcreated
    refine .bind (Q := fun r cell =>
      (∃ e, r = .error e ∧ Failed os coordinates start expected e cell) ∨
      (r = .ok () ∧ cell.slot.removed = false ∧ Inv os start expected
        { cell with slot := { cell.slot with created := true } })) (call_ends ?_ ?_ ?_) ?_
    · refine fun hfails => .inl ⟨_, rfl, hnext, fun h => ?_⟩
      rw [h.1.1] at hfails
      cases hfails
    · refine fun e he => .inl ⟨e, rfl, hnext, fun h => ?_⟩
      have hquarantine : (os.next cell.world).quarantine = none := hfree h.2.free
      simp only [hquarantine] at he
      cases he
    · intro b world hworld
      cases hquarantine : (os.next cell.world).quarantine with
      | some directory =>
          simp only [hquarantine] at hworld
          cases hworld
      | none =>
          simp only [hquarantine] at hworld
          cases hworld
          refine .inr ⟨rfl, kept, { hnext with
            removed := fun identity hidentity => by
              rcases hnext.removed identity hidentity with h | h
              · exact .inl h
              · exact .inr (List.mem_cons_of_mem _ h)
            fresh := nofun
            own := fun _ _ => ⟨_, rfl, ?_⟩
            gone := fun removed => ?_ }⟩
          · exact
              { isDir := rfl
                made := List.mem_cons_self
                device := by
                  change (os.next cell.world).parentIdentity.device = _
                  exact congrArg FileIdentity.device hnext.parent.1
                uid := rfl
                unshared := os.createdMode_private
                complete := fun h => by
                  rw [show cell.slot.setupComplete = false from hcomplete] at h
                  cases h
                identity := fun identity h => by
                  rw [show cell.slot.identity = none from hidentity] at h
                  cases h
                empty := fun _ => rfl
                full := fun h => by
                  rw [show cell.slot.handoff = false from hhandoff] at h
                  cases h
                known := nofun }
          · rw [show cell.slot.removed = false from kept] at removed
            cases removed
    · rintro r cell (⟨e, rfl, failed⟩ | ⟨rfl, kept, inv⟩)
      · cases e with
        | alreadyExists => exact .pure ⟨failed.1, nofun, fun _ => failed.2⟩
        | notFound => exact .fail failed
        | directoryNotEmpty => exact .fail failed
        | invalidInput => exact .fail failed
        | other => exact .fail failed
      · exact .bindModify (inspectQuarantine_ends inv rfl kept foreign)

theorem openParentWithoutSymlinks_ends (inv : Inv os start expected cell)
    (foreign : os.Foreign expected) :
    Attempt.Ends (openParentWithoutSymlinks os coordinates.componentA coordinates.parent) cell
      (fun _ => Inv os start expected) (Failed os coordinates start expected) := by
  have hopen : ∀ {cell : Cell}, Inv os start expected cell →
      Attempt.Ends (orFail (onOpenFile os)) cell (fun _ => Inv os start expected)
        (Failed os coordinates start expected) := fun inv =>
    orFail_onOpenFile_ends (inv.next foreign)
      fun e hquiet => ⟨inv.next foreign, fun h => hquiet h.1⟩
  have hnames : ∀ (names : List String) {cell : Cell},
      (∀ name ∈ names, name ∈ coordinates.parent) → Inv os start expected cell →
      Attempt.Ends (names.forM fun name => do
          Attempt.ofExcept (prepareCleanupComponent coordinates.componentA name)
          orFail (onOpenFile os)) cell
        (fun _ => Inv os start expected) (Failed os coordinates start expected) := by
    intro names
    induction names with
    | nil => exact fun _ inv => .pure inv
    | cons name names ih =>
        intro cell hmem inv
        refine .bind (.bindOfExcept (fun e he => ⟨inv, fun h => ?_⟩) fun _ _ => hopen inv)
          fun _ cell inv => ih (fun name hname => hmem name (List.mem_cons_of_mem _ hname)) inv
        rw [h.2.parentFits name (hmem name List.mem_cons_self)] at he
        cases he
  exact .bind (hopen inv) fun _ cell inv => hnames coordinates.parent (fun _ h => h) inv

/-- What one call of the cleanup does, from wherever the calls before have left it. -/
theorem resolveCurrentArtifactByHandoff_ends (inv : Inv os start expected cell)
    (foreign : os.Foreign expected) :
    Attempt.Ends (resolveCurrentArtifactByHandoff os coordinates expected) cell
      (Ended os coordinates start expected) (Failed os coordinates start expected) := by
  refine .bind (openParentWithoutSymlinks_ends inv foreign) fun _ cell inv => ?_
  refine .bindOfExcept (fun e he => ⟨inv, fun h => ?_⟩) fun _ _ => ?_
  · rw [h.2.nameFits] at he
    cases he
  refine .bindOfExcept (fun e he => ⟨inv, fun h => ?_⟩) fun _ _ => ?_
  · rw [h.2.quarantineFits] at he
    cases he
  refine .bind (retainAndValidateQuarantineParent_ends (P := fun _ => True) inv foreign trivial
    fun _ _ => trivial) ?_
  rintro valid cell ⟨⟨inv, -⟩, hvalid⟩
  refine .ite (fun h => .pure (.of_disturbed inv (hvalid h))) fun _ => ?_
  refine .bindOk (b := cell.slot) rfl (.ite (fun hremoved => ?_) fun hremoved => ?_)
  · refine .bind (orFail_onOpenFile_ends
      (P := fun cell => Inv os start expected cell ∧ cell.slot.removed = true)
      ⟨inv.next foreign, hremoved⟩ fun e hquiet => ⟨inv.next foreign, fun h => hquiet h.1⟩) ?_
    rintro - cell ⟨inv, removed⟩
    exact .pure ⟨inv, fun _ => removed, nofun⟩
  · refine .bind (openAuthoritativeQuarantine_ends inv (Bool.eq_false_iff.mpr hremoved)
      foreign) ?_
    rintro opened cell ⟨inv, hopened, hdisturbed⟩
    refine .ite (fun h => .pure (.of_disturbed inv (hdisturbed h))) fun h => ?_
    have hopened := hopened (eq_true_of_ne_false h)
    refine .bindOk (b := cell.slot) rfl (.ite (fun handoff => ?_) fun handoff => ?_)
    · exact resolvePrivateArtifact_ends hopened handoff foreign
    · exact handOff_ends hopened (Bool.eq_false_iff.mpr handoff) foreign

/-! ### Sequences of calls -/

theorem inv_start : Inv os start expected (Cell.start start) where
  parent := ⟨rfl, rfl, rfl⟩
  retained := nofun
  removed := nofun
  known := fun _ h _ => h
  fresh := fun _ => ⟨rfl, rfl, rfl, rfl, rfl, id⟩
  own := nofun
  gone := nofun
  handed := nofun
  order := nofun

theorem inv_calls (foreign : os.Foreign expected) (n : ℕ) :
    Inv os start expected (calls os coordinates expected n (Cell.start start)) := by
  induction n with
  | zero => exact inv_start
  | succ n ih =>
      exact ((resolveCurrentArtifactByHandoff_ends ih foreign).mono
        (fun _ _ h => h.1) fun _ _ h => h.1).reached

theorem Inv.not_holds_of_removed (inv : Inv os start expected cell)
    (removed : cell.slot.removed = true) :
    cell.world.quarantine = none ∧ ¬cell.world.Holds expected := by
  obtain ⟨hquarantine, absent⟩ := inv.gone removed
  refine ⟨hquarantine, ?_⟩
  rintro (⟨object, hobject, hidentity⟩ | ⟨directory, object, hdirectory, -⟩)
  · exact absent object hobject hidentity
  · rw [hquarantine] at hdirectory
    cases hdirectory

theorem Inv.not_holds_of_blocked (inv : Inv os start expected cell)
    (blocked : cell.Blocked expected) (hfree : start.quarantine = none) :
    ¬cell.world.Holds expected := by
  rcases blocked with ⟨handoff, other, hother, hne⟩ |
    ⟨handoff, directory, other, hdirectory, hother, hne⟩
  · rintro (⟨object, hobject, hidentity⟩ | ⟨directory, object, hdirectory, hartifact, -⟩)
    · cases hother.symm.trans hobject
      exact hne hidentity
    · cases hcreated : cell.slot.created with
      | false =>
          rw [(inv.fresh hcreated).2.2.2.2.2 hfree] at hdirectory
          cases hdirectory
      | true =>
          cases hremoved : cell.slot.removed with
          | true =>
              rw [(inv.gone hremoved).1] at hdirectory
              cases hdirectory
          | false =>
              obtain ⟨directory', hdirectory', own⟩ := inv.own hcreated hremoved
              cases hdirectory.symm.trans hdirectory'
              rw [own.empty (.inl handoff)] at hartifact
              cases hartifact
  · rintro (⟨object, hobject, hidentity⟩ | ⟨directory', object, hdirectory', hobject, hidentity⟩)
    · exact inv.handed handoff object hobject hidentity
    · cases hdirectory.symm.trans hdirectory'
      cases hother.symm.trans hobject
      exact hne hidentity

/-- After any number of calls, whatever failed and whatever others put under the name of
the artifact, the cleanup has removed nothing but the expected object and directories it
has made itself; a call that reports success leaves neither the object nor the quarantine
behind; and in a usable place the next call that nothing disturbs leaves the object under
neither name, and reports success unless another object stands in its way. -/
theorem quarantine_cleanup (os : Os) (coordinates : Coordinates) (expected : FileIdentity)
    (start : World) (foreign : os.Foreign expected) (n : ℕ) :
    let cell := calls os coordinates expected n (Cell.start start)
    let after := resolveCurrentArtifactByHandoff os coordinates expected cell
    let undisturbed := resolveCurrentArtifactByHandoff os.quiet coordinates expected cell
    (∀ identity ∈ cell.world.removed, identity = expected ∨ identity ∈ cell.world.made) ∧
      (after.1 = .ok true →
        after.2.world.quarantine = none ∧ ¬after.2.world.Holds expected) ∧
      (Usable os coordinates expected start →
        ¬undisturbed.2.world.Holds expected ∧
          (undisturbed.1 = .ok true ∨
            undisturbed.1 = .ok false ∧ undisturbed.2.Blocked expected)) := by
  intro cell after undisturbed
  have inv : Inv os start expected cell := inv_calls foreign n
  have hafter : Attempt.Ends (resolveCurrentArtifactByHandoff os coordinates expected) cell
      (Ended os coordinates start expected) (Failed os coordinates start expected) :=
    resolveCurrentArtifactByHandoff_ends inv foreign
  -- The undisturbed call runs from the same cell under a system of its own.
  have hquiet : Attempt.Ends (resolveCurrentArtifactByHandoff os.quiet coordinates expected)
      cell (Ended os.quiet coordinates start expected)
      (Failed os.quiet coordinates start expected) := by
    refine resolveCurrentArtifactByHandoff_ends { inv with
      own := fun created removed => ?_ } nofun
    obtain ⟨directory, hdirectory, own⟩ := inv.own created removed
    exact ⟨directory, hdirectory, { own with }⟩
  refine ⟨inv.removed, fun hsuccess => ?_, fun usable => ?_⟩
  · have ended := hafter.of_ok hsuccess
    exact ended.1.not_holds_of_removed (ended.2.1 rfl)
  · have hundisturbed : Undisturbed os.quiet coordinates expected start :=
      ⟨⟨fun _ => rfl, fun _ => rfl⟩, { usable with }⟩
    cases hresult : undisturbed.1 with
    | error e => exact absurd hundisturbed (hquiet.of_error hresult).2
    | ok success =>
        have ended := hquiet.of_ok hresult
        cases success with
        | true => exact ⟨(ended.1.not_holds_of_removed (ended.2.1 rfl)).2, .inl rfl⟩
        | false =>
            have blocked := ended.2.2 rfl hundisturbed
            exact ⟨ended.1.not_holds_of_blocked blocked usable.free, .inr ⟨rfl, blocked⟩⟩

end Cleanup

/-! ### Two places the cleanup gives up in -/

section GivesUp

variable {os : Os} {coordinates : Coordinates} {expected : FileIdentity} {cell : Cell}
  {P : Cell → Prop}

theorem openParentWithoutSymlinks_keeps (hnext : ∀ cell, P cell → P (cell.next os))
    (hcell : P cell) {capacity : ℕ} (names : List String) :
    Attempt.Ends (openParentWithoutSymlinks os capacity names) cell (fun _ => P)
      fun _ => P := by
  have hopen : ∀ {cell : Cell}, P cell →
      Attempt.Ends (orFail (onOpenFile os)) cell (fun _ => P) fun _ => P :=
    fun hcell => orFail_onOpenFile_ends (hnext _ hcell) fun _ _ => hnext _ hcell
  refine .bind (hopen hcell) fun _ cell hcell => ?_
  induction names generalizing cell with
  | nil => exact .pure hcell
  | cons name names ih =>
      exact .bind (.bindOfExcept (fun _ _ => hcell) fun _ _ => hopen hcell)
        fun _ cell hcell => ih cell hcell

theorem retainAndValidateQuarantineParent_keeps (hnext : ∀ cell, P cell → P (cell.next os))
    (hretained : ∀ cell identity, P cell →
      P { cell with slot := { cell.slot with parentIdentity := some identity } })
    (hcell : P cell) :
    Attempt.Ends (retainAndValidateQuarantineParent os) cell
      (fun valid cell => P cell ∧ (valid = true →
        cell.world.parentUid = os.euid ∧ cell.world.parentMode &&& 0o022 = 0))
      fun _ => P := by
  refine .bind (orFail_query_ends (hnext _ hcell) fun _ _ => hnext _ hcell) ?_
  rintro _ cell ⟨hcell, hread⟩
  cases hread
  refine .bindOk (b := cell.slot) rfl ?_
  cases hparent : cell.slot.parentIdentity with
  | some identity => exact .pure ⟨hcell, fun h => (of_decide_eq_true h).2⟩
  | none => exact .bindModify (.pure ⟨hretained _ _ hcell, of_decide_eq_true⟩)

/-- Another object was moved into the quarantine. -/
structure Kept (expected : FileIdentity) (cell : Cell) : Prop where
  created : cell.slot.created = true
  kept : cell.slot.removed = false
  handoff : cell.slot.handoff = true
  stays : cell.slot.artifactRemoved = false
  other : ∃ directory object, cell.world.quarantine = some directory ∧
    directory.artifact = some object ∧ object.identity ≠ expected

theorem Kept.next (os : Os) (cell : Cell) (kept : Kept expected cell) :
    Kept expected (cell.next os) :=
  { kept with other := by simpa only [Cell.next, next_quarantine] using kept.other }

theorem Kept.directory (kept : Kept expected cell) {directory : Directory}
    (hdirectory : cell.world.directory = .ok directory) :
    cell.world.quarantine = some directory ∧
      ∃ object, directory.artifact = some object ∧ object.identity ≠ expected := by
  obtain ⟨directory', object, hquarantine, hartifact, hne⟩ := kept.other
  unfold World.directory at hdirectory
  rw [hquarantine] at hdirectory
  simp only at hdirectory
  split at hdirectory
  · cases hdirectory
    exact ⟨hquarantine, object, hartifact, hne⟩
  · cases hdirectory

theorem normalizeQuarantine_kept (kept : Kept expected cell) (device : ℕ)
    (directory : Directory) :
    Attempt.Ends (normalizeQuarantine os device directory) cell (fun _ => Kept expected)
      fun _ => Kept expected := by
  have hnext : ∀ cell, Kept expected cell → Kept expected (cell.next os) := Kept.next os
  refine .bindOk (b := cell.slot) rfl (.ite (fun _ => .pure kept) fun _ => ?_)
  refine .bind (Q := fun _ => Kept expected) (orFail_ends
    (call_ends (fun _ => ⟨nofun, fun _ _ => hnext _ kept⟩)
      (fun _ _ => ⟨nofun, fun _ _ => hnext _ kept⟩)
      fun b world hworld => ⟨fun _ _ => ?_, nofun⟩)) fun _ cell kept => ?_
  · cases hdirectory : (os.next cell.world).directory with
    | error e =>
        simp only [hdirectory] at hworld
        cases hworld
    | ok directory =>
        simp only [hdirectory] at hworld
        cases hworld
        obtain ⟨-, object, hartifact, hne⟩ := (hnext _ kept).directory hdirectory
        exact { kept with other := ⟨_, object, rfl, hartifact, hne⟩ }
  refine .bind (orFail_query_ends (hnext _ kept) fun _ _ => hnext _ kept) ?_
  rintro normalized cell ⟨kept, -⟩
  refine .ite (fun _ => .pure kept) fun _ => ?_
  refine .bind (orFail_onOpenFile_ends (hnext _ kept) fun _ _ => hnext _ kept) ?_
  exact fun _ cell kept => .bindModify (.pure { kept with })

theorem openAuthoritativeQuarantine_kept (kept : Kept expected cell) :
    Attempt.Ends (openAuthoritativeQuarantine os) cell (fun _ => Kept expected)
      fun _ => Kept expected := by
  have hnext : ∀ cell, Kept expected cell → Kept expected (cell.next os) := Kept.next os
  refine .bindOk (b := cell.slot) rfl (.ite (fun _ => ?_) fun h => absurd kept.created h)
  refine .bind (orFail_query_ends (hnext _ kept) fun _ _ => hnext _ kept) ?_
  rintro - cell ⟨kept, -⟩
  refine .bind (orFail_query_ends (hnext _ kept) fun _ _ => hnext _ kept) ?_
  rintro parent cell ⟨kept, -⟩
  refine .bind (orFail_query_ends (hnext _ kept) fun _ _ => hnext _ kept) ?_
  rintro directory cell ⟨kept, -⟩
  refine .bindOk (b := cell.slot) rfl (.ite (fun _ => .pure kept) fun _ => ?_)
  refine .bindModify (normalizeQuarantine_kept ?_ _ _)
  exact { kept with }

/-- Once another object is in the quarantine, it stays there and no call reports success. -/
theorem resolveCurrentArtifactByHandoff_kept (kept : Kept expected cell) :
    Attempt.Ends (resolveCurrentArtifactByHandoff os coordinates expected) cell
      (fun success cell => success = false ∧ Kept expected cell) fun _ => Kept expected := by
  have hnext : ∀ cell, Kept expected cell → Kept expected (cell.next os) := Kept.next os
  refine .bind (openParentWithoutSymlinks_keeps hnext kept _) fun _ cell kept => ?_
  refine .bindOfExcept (fun _ _ => kept) fun _ _ => ?_
  refine .bindOfExcept (fun _ _ => kept) fun _ _ => ?_
  refine .bind (retainAndValidateQuarantineParent_keeps hnext
    (fun _ _ kept => { kept with }) kept) ?_
  rintro valid cell ⟨kept, -⟩
  refine .ite (fun _ => .pure ⟨rfl, kept⟩) fun _ => ?_
  refine .bindOk (b := cell.slot) rfl (.ite (fun h => ?_) fun _ => ?_)
  · rw [kept.kept] at h
    cases h
  refine .bind (openAuthoritativeQuarantine_kept kept) fun opened cell kept => ?_
  refine .ite (fun _ => .pure ⟨rfl, kept⟩) fun _ => ?_
  refine .bindOk (b := cell.slot) rfl (.ite (fun _ => ?_) fun h => absurd kept.handoff h)
  refine .bindOk (b := cell.slot) rfl (.ite (fun h => ?_) fun _ => ?_)
  · rw [kept.stays] at h
    cases h
  refine .bind (query_ends (hnext _ kept)) ?_
  rintro r cell ⟨kept, ⟨rfl, -⟩ | rfl⟩
  · exact .fail kept
  cases hdirectory : cell.world.directory with
  | error e =>
      cases e with
      | notFound => exact .pure ⟨rfl, kept⟩
      | alreadyExists => exact .fail kept
      | directoryNotEmpty => exact .fail kept
      | invalidInput => exact .fail kept
      | other => exact .fail kept
  | ok directory =>
      obtain ⟨-, object, hartifact, hne⟩ := kept.directory hdirectory
      simp only [Except.bind, hartifact, identityAt]
      exact .ite (fun h => absurd h hne) fun _ => .pure ⟨rfl, kept⟩

/-- The cleanup does not trust the directory the artifact is in. -/
structure Refused (os : Os) (expected : FileIdentity) (cell : Cell) : Prop where
  untrusted : ¬(cell.world.parentUid = os.euid ∧ cell.world.parentMode &&& 0o022 = 0)
  holds : ∃ object, cell.world.publicName = some object ∧ object.identity = expected

/-- In a directory the cleanup does not trust, the object stays where it is. -/
theorem resolveCurrentArtifactByHandoff_refused (quiet : os.Quiet)
    (refused : Refused os expected cell) :
    Attempt.Ends (resolveCurrentArtifactByHandoff os coordinates expected) cell
      (fun _ => Refused os expected) fun _ => Refused os expected := by
  have hnext : ∀ cell, Refused os expected cell → Refused os expected (cell.next os) := by
    refine fun cell refused => ⟨?_, ?_⟩
    · simpa only [Cell.next, next_parentUid, next_parentMode] using refused.untrusted
    · simpa only [Cell.next, next_publicName_of_quiet quiet] using refused.holds
  refine .bind (openParentWithoutSymlinks_keeps hnext refused _) fun _ cell refused => ?_
  refine .bindOfExcept (fun _ _ => refused) fun _ _ => ?_
  refine .bindOfExcept (fun _ _ => refused) fun _ _ => ?_
  refine .bind (retainAndValidateQuarantineParent_keeps hnext
    (fun _ _ refused => { refused with }) refused) ?_
  rintro valid cell ⟨refused, hvalid⟩
  refine .ite (fun _ => .pure refused) fun h => ?_
  exact absurd (hvalid (eq_true_of_ne_false h)) refused.untrusted

end GivesUp

def artifactIdentity : FileIdentity := ⟨1, 7⟩

def artifactCoordinates : Coordinates := ⟨[], "mic-rec.wav", 256, 256⟩

/-- The directory of an artifact, with its owner and mode. -/
def artifactParent (mode clock : ℕ) : World :=
  { parentIdentity := ⟨1, 2⟩
    parentUid := 1000
    parentMode := mode
    publicName := some ⟨artifactIdentity, false⟩
    quarantine := none
    made := []
    removed := []
    clock := clock }

/-- Nothing fails; right before the artifact is moved another file takes its place. -/
def lateReplacement : Os where
  euid := 1000
  createdMode := 0o700
  createdMode_private := by decide
  fails := fun _ => false
  allocate := fun _ => 50
  others := fun world =>
    match world.publicName with
    | some _ => if world.clock = 11 then some (some ⟨⟨1, 8⟩, false⟩) else none
    | none => none

theorem lateReplacement_foreign : lateReplacement.Foreign artifactIdentity := by
  intro world object hothers hidentity
  unfold lateReplacement at hothers
  simp only at hothers
  split at hothers
  · split at hothers
    · cases hothers
      revert hidentity
      decide
    · cases hothers
  · cases hothers

theorem artifactName_fits : prepareCleanupComponent artifactCoordinates.componentA
    artifactCoordinates.publicName = .ok () := by
  decide

/-- The undisturbed call after the replacement leaves the object under neither name. -/
theorem quarantine_cleanup_late_replacement :
    ¬(resolveCurrentArtifactByHandoff lateReplacement.quiet artifactCoordinates artifactIdentity
      (calls lateReplacement artifactCoordinates artifactIdentity 1
        (Cell.start (artifactParent 0o755 0)))).2.world.Holds artifactIdentity :=
  ((quarantine_cleanup lateReplacement artifactCoordinates artifactIdentity
    (artifactParent 0o755 0) lateReplacement_foreign 1).2.2
    { owner := rfl
      unshared := by decide
      free := rfl
      file := fun _ hobject _ => by
        cases hobject
        rfl
      parentFits := nofun
      nameFits := artifactName_fits
      quarantineFits := by decide }).1

theorem calls_refused (n : ℕ) :
    Refused lateReplacement.quiet artifactIdentity
      (calls lateReplacement.quiet artifactCoordinates artifactIdentity n
        (Cell.start (artifactParent 0o775 0))) := by
  induction n with
  | zero => exact ⟨by decide, _, rfl, rfl⟩
  | succ n ih =>
      exact (resolveCurrentArtifactByHandoff_refused ⟨fun _ => rfl, fun _ => rfl⟩ ih).reached

theorem calls_kept (n : ℕ) :
    Kept artifactIdentity (calls lateReplacement artifactCoordinates artifactIdentity (n + 1)
      (Cell.start (artifactParent 0o755 0))) := by
  induction n with
  | zero => exact ⟨by decide, by decide, by decide, by decide, _, _, rfl, rfl, by decide⟩
  | succ n ih =>
      exact ((resolveCurrentArtifactByHandoff_kept ih).mono (fun _ _ h => h.2)
        fun _ _ h => h).reached

/-- Where the group may write to the directory of the artifact, no call removes it; and
where another file was moved into the quarantine, no call reports success. -/
theorem quarantine_cleanup_gives_up :
    (¬∃ n, ¬(calls lateReplacement.quiet artifactCoordinates artifactIdentity n
        (Cell.start (artifactParent 0o775 0))).world.Holds artifactIdentity) ∧
      ¬∃ n, (resolveCurrentArtifactByHandoff lateReplacement artifactCoordinates
        artifactIdentity (calls lateReplacement artifactCoordinates artifactIdentity n
          (Cell.start (artifactParent 0o755 0)))).1 = .ok true := by
  constructor
  · rintro ⟨n, hn⟩
    exact hn (.inl (calls_refused n).holds)
  · rintro ⟨n, hn⟩
    cases n with
    | zero => exact absurd hn (by decide)
    | succ n => cases ((resolveCurrentArtifactByHandoff_kept (calls_kept n)).of_ok hn).1

end Lamb.Quarantine
