import ChassisWatch.Proofs.Files.Held
import ChassisWatch.Publisher.StateFile

/-!
# The state file is replaced as a whole

An operation may be cut off, and then it leaves what it had done until then. Whatever operation of a
replacement is cut off or fails, the state file is the old one or the new one, since the new text is
written to a draft that is another file. The name of the draft ends in `.tmp`; a state file whose
own name ends so may be its own draft, and then a reader may find half of it.
-/

namespace ChassisWatch

namespace FileAction

/-- The trees that an operation may leave. -/
inductive Leaves (f : Files) : FileAction → Files → Prop
  /-- It was cut off before it did anything. -/
  | before (a : FileAction) : Leaves f a f
  /-- It went as far as it goes. -/
  | after (a : FileAction) : Leaves f a (a.run f).1
  /-- It was cut off when it made the directories that hold the last one. -/
  | onWay {path holder : String} {g : Files}
    (missing : f.ensureDirectory path = .error (.os .noEntry))
    (hparent : Path.parent? path = some holder) (rest : Leaves f (.makeDirectories holder) g) :
    Leaves f (.makeDirectories path) g
  /-- It was cut off when so many bytes were written. -/
  | partly {path text : String} {g : Files} (bytes : Nat)
    (written : f.writeBytes path (text.toUTF8.extract 0 bytes) = .ok g) :
    Leaves f (.write path text) g

/-- The trees that a row of operations may leave, of which each waits for the one before it. -/
inductive LeavesAll : Files → List FileAction → Files → Prop
  | done (f : Files) : LeavesAll f [] f
  | within {f g : Files} {a : FileAction} (rest : List FileAction) (h : a.Leaves f g) :
    LeavesAll f (a :: rest) g
  | next {f g h : Files} {a : FileAction} {rest : List FileAction} (ha : a.run f = (g, none))
    (hrest : LeavesAll g rest h) : LeavesAll f (a :: rest) h

/-- What a row of operations comes to is one of the trees that it may leave. -/
theorem leavesAll_runAll (f : Files) (actions : List FileAction) :
    LeavesAll f actions (runAll f actions).1 := by
  induction actions generalizing f with
  | nil => exact .done f
  | cons a rest ih =>
    have hafter := Leaves.after (f := f) a
    rw [runAll]
    split
    next g e hrun =>
      rw [hrun] at hafter
      exact .within rest hafter
    next g hrun => exact .next hrun (ih g)

/-- A row of operations succeeds if the first does and then the others do. -/
theorem exists_of_runAll_cons_eq {f h : Files} {a : FileAction} {rest : List FileAction}
    (hrun : runAll f (a :: rest) = (h, none)) :
    ∃ g, a.run f = (g, none) ∧ runAll g rest = (h, none) := by
  rw [runAll] at hrun
  split at hrun
  · simp at hrun
  next g ha => exact ⟨g, ha, hrun⟩

theorem eq_ok_of_attempt_eq {f g : Files} {attempted : Except IoError Files}
    (h : attempt f attempted = (g, none)) : attempted = .ok g := by
  cases attempted with
  | error e => simp [attempt] at h
  | ok g => simpa [attempt] using h

/-- An operation that is attempted leaves the old tree, or the new one if it succeeds. -/
theorem attempt_fst (f : Files) (attempted : Except IoError Files) :
    (attempt f attempted).1 = f ∨ attempted = .ok (attempt f attempted).1 := by
  cases attempted with
  | error e => exact .inl rfl
  | ok g => exact .inr rfl

/-- Writing leaves the old tree, or one in which something was written. -/
theorem Leaves.of_write {f g : Files} {path text : String} (h : (write path text).Leaves f g) :
    g = f ∨ ∃ content, f.writeBytes path content = .ok g := by
  cases h with
  | before => exact .inl rfl
  | after => exact (attempt_fst f _).imp_right fun h => ⟨_, h⟩
  | partly bytes written => exact .inr ⟨_, written⟩

/-- A file is moved at once or not at all. -/
theorem Leaves.of_move {f g : Files} {source destination : String}
    (h : (move source destination).Leaves f g) :
    g = f ∨ f.moveFile source destination = .ok g := by
  cases h with
  | before => exact .inl rfl
  | after => exact attempt_fst f _

end FileAction

open FileAction

/-- A state file is its own draft if the draft has its name. -/
def IsOwnDraft (stateFile : String) : Prop :=
  Path.fileName? stateFile ≠ none ∧
    Path.fileName? (draftPath stateFile) = Path.fileName? stateFile

instance (stateFile : String) : Decidable (IsOwnDraft stateFile) :=
  inferInstanceAs (Decidable (_ ∧ _))

namespace Path

/-- The draft stands in the directory of the state file, under a name that means something. -/
theorem Named.parts_draftPath {stateFile name : String} {dir : List String}
    (h : Named stateFile dir name) :
    ∃ other, Path.parts (draftPath stateFile) = dir ++ [other] ∧ isVoid other = false := by
  obtain ⟨other, hparts, hother⟩ := h.parts_withExtension (show '/' ∉ "tmp".toList by decide)
  rw [String.append_assoc, show "." ++ "tmp" = ".tmp" from rfl] at hother
  have hlong : 2 ≤ other.toList.length := by
    rcases hother with rfl | rfl
    · decide
    · simp
  have hempty : other ≠ "" := by
    rintro rfl
    contradiction
  have hpoint : other ≠ "." := by
    rintro rfl
    contradiction
  exact ⟨other, hparts, by simp [isVoid, hempty, hpoint]⟩

end Path

example : IsOwnDraft "/run/state.tmp" ∧ ¬IsOwnDraft "/run/.tmp" ∧ ¬IsOwnDraft "/run/state" := by
  decide

/-- Where a draft can be written it stands elsewhere than the state file, unless the state file is
its own draft. -/
theorem place_ne_of_not_isOwnDraft {stateFile : String} (hdraft : ¬IsOwnDraft stateFile)
    {f : Files} {t u : Target} (ht : f.locate (draftPath stateFile) = .ok t)
    (hnamed : t.isNamed = true) (hu : f.locate stateFile = .ok u) : u.place ≠ t.place := by
  obtain ⟨before, last, hway, hlast⟩ := Files.exists_way_of_isNamed ht hnamed
  cases hname : Path.fileName? stateFile with
  | none =>
    -- A path without a file name is left as it is, and has no name to write to.
    obtain ⟨dir, hdraftNamed⟩ := Path.exists_named_of_way_eq hway hlast
    have hdraftName := Path.fileName?_eq_some_iff.mpr ⟨dir, hdraftNamed⟩
    rw [draftPath, Path.withExtension, hname] at hdraftName
    simp [hname] at hdraftName
  | some name =>
    obtain ⟨dir, hstate⟩ := Path.fileName?_eq_some_iff.mp hname
    obtain ⟨other, hparts, hvoid⟩ := hstate.parts_draftPath
    have hempty : other ≠ "" := by
      rintro rfl
      contradiction
    obtain rfl : other = last := by
      have hdraftWay : Path.way (draftPath stateFile) = dir.filter (· ≠ "") ++ [other] := by
        simp [Path.way, hparts, hempty]
      exact (List.cons.inj (List.append_inj' (hdraftWay.symm.trans hway) rfl).2).1
    have hdraftNamed := Path.Named.of_parts_eq hparts (by simp) hlast
    have hne : other ≠ name := by
      rintro rfl
      refine hdraft ⟨by simp [hname], ?_⟩
      rw [hname]
      exact Path.fileName?_eq_some_iff.mpr ⟨dir, hdraftNamed⟩
    obtain ⟨inside, hinside, htPlace⟩ := Files.exists_place_of_named hdraftNamed ht
    obtain ⟨same, hsame, huPlace⟩ := Files.exists_place_of_named hstate hu
    have hstart : f.start (draftPath stateFile) = f.start stateFile := by
      rw [Files.start, Files.start, hstate.isAbsolute_eq hparts hempty]
    rw [hstart, hsame] at hinside
    obtain rfl := Except.ok.inj hinside
    rw [htPlace, huPlace]
    simpa using Ne.symm hne

/-- The directory of a path stands already, or the path never steps up. -/
def Files.ClearWay (f : Files) (path : String) : Prop :=
  ".." ∉ Path.way path ∨
    ∀ holder, Path.parent? path = some holder → holder ≠ "" → f.isDirectory holder = true

namespace FileAction

/-- Where the making of directories is cut off, nothing is made, or all directories on the way to a
place that is on the way. -/
theorem Leaves.of_makeDirectories {f g : Files} {path : String}
    (h : (makeDirectories path).Leaves f g) :
    g = f ∨ ∃ q, (Path.isAbsolute q = Path.isAbsolute path ∧ Path.depth q ≤ Path.depth path) ∧
      g = (f.makeDirectories q).1 := by
  generalize ha : makeDirectories path = a at h
  induction h generalizing path with
  | before => exact .inl rfl
  | after =>
    subst ha
    exact .inr ⟨path, ⟨rfl, Nat.le_refl _⟩, rfl⟩
  | onWay missing hparent rest ih =>
    obtain rfl := FileAction.makeDirectories.inj ha
    obtain ⟨habsolute, hless, -⟩ := Path.parent?_spec hparent
    refine (ih rfl).imp_right ?_
    rintro ⟨q, ⟨hq, hdepth⟩, hmade⟩
    exact ⟨q, ⟨hq.trans habsolute, hdepth.trans hless⟩, hmade⟩
  | partly => contradiction

/-- Making directories uproots no tree, wherever it is cut off. -/
theorem Leaves.rooted {f g : Files} {path : String} (h : (makeDirectories path).Leaves f g)
    (hf : f.Rooted) : g.Rooted := by
  rcases h.of_makeDirectories with rfl | ⟨q, -, rfl⟩
  · exact hf
  · exact hf.makeDirectories q

/-- Directories that are made on a way stand no deeper than the way goes. -/
theorem Leaves.grown {f g : Files} {path : String} (h : (makeDirectories path).Leaves f g) :
    Files.Grown ((f.start path).length + Path.depth path) f g := by
  rcases h.of_makeDirectories with rfl | ⟨q, ⟨habsolute, hdepth⟩, rfl⟩
  · exact .refl g
  · have hstart : f.start q = f.start path := by rw [Files.start, Files.start, habsolute]
    exact .makeDirectories f q (hstart ▸ Nat.add_le_add_left hdepth _)

/-- Where the directory stands nothing is made. -/
theorem Leaves.eq_of_isDirectory {f g : Files} {path : String}
    (h : (makeDirectories path).Leaves f g) (hpath : f.isDirectory path = true) : g = f := by
  cases h with
  | before => rfl
  | after => rw [run, Files.makeDirectories_of_isDirectory hpath]
  | onWay missing => simp [Files.ensureDirectory_of_isDirectory hpath] at missing

/-- Making the directory of a path changes nothing about what the path holds. -/
theorem Leaves.held_eq {f g : Files} {path holder : String}
    (h : (makeDirectories holder).Leaves f g) (hf : f.Rooted) (hway : f.ClearWay path)
    (hparent : Path.parent? path = some holder) (hne : holder ≠ "") :
    g.held path = f.held path := by
  rcases hway with hup | hholder
  · obtain ⟨habsolute, -, hless⟩ := Path.parent?_spec hparent
    have hstart : f.start holder = f.start path := by rw [Files.start, Files.start, habsolute]
    refine h.grown.held_eq hf hup ?_
    rw [hstart]
    exact Nat.add_lt_add_left (hless hne) _
  · rw [h.eq_of_isDirectory (hholder holder hparent hne)]

end FileAction

section

variable {f g : Files} {stateFile text : String}

/-- A state file is replaced after its directory is made, if it has one. -/
theorem replaceActions_cases (stateFile text : String) :
    replaceActions stateFile text =
        [.write (draftPath stateFile) text, .move (draftPath stateFile) stateFile] ∨
      ∃ holder, Path.parent? stateFile = some holder ∧ holder ≠ "" ∧
        replaceActions stateFile text =
          [.makeDirectories holder, .write (draftPath stateFile) text,
            .move (draftPath stateFile) stateFile] := by
  cases hparent : Path.parent? stateFile with
  | none => exact .inl (by simp [replaceActions, hparent])
  | some holder =>
    by_cases hempty : holder = ""
    · exact .inl (by simp [replaceActions, hparent, hempty])
    · exact .inr ⟨holder, rfl, hempty, by
        simp [replaceActions, hparent, Option.filter, hempty]⟩

/-- A draft that is written, as far as it is, leaves the state file as it is. -/
theorem held_of_draft_written (hf : f.Rooted) (hdraft : ¬IsOwnDraft stateFile)
    {content : ByteArray} (hg : f.writeBytes (draftPath stateFile) content = .ok g) :
    g.held stateFile = f.held stateFile :=
  hf.held_writeBytes_of_ne hg fun _ _ => place_ne_of_not_isOwnDraft hdraft

/-- The draft that is moved becomes the state file, and it is gone. -/
theorem held_of_draft_moved (hf : f.Rooted) (hdraft : ¬IsOwnDraft stateFile) {h : Files}
    (hg : f.writeText (draftPath stateFile) text = .ok g)
    (hh : g.moveFile (draftPath stateFile) stateFile = .ok h) :
    h.held stateFile = some (.file text.toUTF8) ∧ h.held (draftPath stateFile) = none := by
  have hmoved := (hf.writeBytes hg).held_moveFile hh fun _ _ => place_ne_of_not_isOwnDraft hdraft
  rwa [hf.held_writeBytes hg] at hmoved

/-- From the moment at which the directory stands, the state file is the old one until it is the
new one. -/
theorem held_of_leavesAll_draft (hf : f.Rooted) (hdraft : ¬IsOwnDraft stateFile)
    (h : LeavesAll f [.write (draftPath stateFile) text, .move (draftPath stateFile) stateFile] g) :
    g.held stateFile = f.held stateFile ∨ g.held stateFile = some (.file text.toUTF8) := by
  cases h with
  | within _ hwrite =>
    rcases hwrite.of_write with rfl | ⟨content, hwritten⟩
    · exact .inl rfl
    · exact .inl (held_of_draft_written hf hdraft hwritten)
  | next hwrite hrest =>
    have hwritten := eq_ok_of_attempt_eq hwrite
    cases hrest with
    | within _ hmove =>
      rcases hmove.of_move with rfl | hmoved
      · exact .inl (held_of_draft_written hf hdraft hwritten)
      · exact .inr (held_of_draft_moved hf hdraft hwritten hmoved).1
    | next hmove hrest =>
      cases hrest
      exact .inr (held_of_draft_moved hf hdraft hwritten (eq_ok_of_attempt_eq hmove)).1

/-- Wherever a replacement is cut off or fails, the state file is the old one or the new one. -/
theorem held_of_leavesAll (hf : f.Rooted) (hdraft : ¬IsOwnDraft stateFile)
    (hway : f.ClearWay stateFile) (h : LeavesAll f (replaceActions stateFile text) g) :
    g.held stateFile = f.held stateFile ∨ g.held stateFile = some (.file text.toUTF8) := by
  rcases replaceActions_cases stateFile text with hactions | ⟨holder, hparent, hne, hactions⟩
  · exact held_of_leavesAll_draft hf hdraft (hactions ▸ h)
  · rw [hactions] at h
    cases h with
    | within _ hmade => exact .inl (hmade.held_eq hf hway hparent hne)
    | next hmake hrest =>
      have hmade := Leaves.after (f := f) (.makeDirectories holder)
      rw [hmake] at hmade
      rw [← hmade.held_eq hf hway hparent hne]
      exact held_of_leavesAll_draft (hmade.rooted hf) hdraft hrest

/-- A draft that is written and moved is the state file afterwards. -/
theorem held_of_runAll_draft (hf : f.Rooted) (hdraft : ¬IsOwnDraft stateFile)
    (h : runAll f [.write (draftPath stateFile) text, .move (draftPath stateFile) stateFile] =
      (g, none)) :
    g.held stateFile = some (.file text.toUTF8) ∧ g.held (draftPath stateFile) = none := by
  obtain ⟨_, hwrite, h⟩ := exists_of_runAll_cons_eq h
  obtain ⟨_, hmove, h⟩ := exists_of_runAll_cons_eq h
  obtain ⟨rfl, -⟩ := Prod.mk.inj h
  exact held_of_draft_moved hf hdraft (eq_ok_of_attempt_eq hwrite) (eq_ok_of_attempt_eq hmove)

/-- After a replacement that succeeded the state file has the new text, and there is no draft. -/
theorem held_of_runAll_eq (hf : f.Rooted) (hdraft : ¬IsOwnDraft stateFile)
    (h : runAll f (replaceActions stateFile text) = (g, none)) :
    g.held stateFile = some (.file text.toUTF8) ∧ g.held (draftPath stateFile) = none := by
  rcases replaceActions_cases stateFile text with hactions | ⟨holder, hparent, hne, hactions⟩
  · exact held_of_runAll_draft hf hdraft (hactions ▸ h)
  · rw [hactions] at h
    obtain ⟨made, hmake, h⟩ := exists_of_runAll_cons_eq h
    have hmade := Leaves.after (f := f) (.makeDirectories holder)
    rw [hmake] at hmade
    exact held_of_runAll_draft (hmade.rooted hf) hdraft h

/-- A replacement makes the directory of the state file, writes a draft elsewhere, and moves it. At
every moment, wherever it is cut off or fails, the state file is what it was or has the whole new
text; and once the replacement succeeded the draft is gone. -/
theorem stateFile_replaced_whole (hf : f.Rooted) (hdraft : ¬IsOwnDraft stateFile)
    (hway : f.ClearWay stateFile) :
    (∃ holders : List String, replaceActions stateFile text =
        holders.map .makeDirectories ++
          [.write (draftPath stateFile) text, .move (draftPath stateFile) stateFile]) ∧
      (Path.fileName? stateFile ≠ none → draftPath stateFile ≠ stateFile) ∧
      (∀ (g : Files) (t u : Target), g.locate (draftPath stateFile) = .ok t → t.isNamed = true →
        g.locate stateFile = .ok u → u.place ≠ t.place) ∧
      (∀ g, LeavesAll f (replaceActions stateFile text) g →
        g.held stateFile = f.held stateFile ∨ g.readText stateFile = .ok text) ∧
      ∀ g, runAll f (replaceActions stateFile text) = (g, none) →
        g.readText stateFile = .ok text ∧ g.held (draftPath stateFile) = none := by
  refine ⟨?_, fun hname hsame => hdraft ⟨hname, by rw [hsame]⟩,
    fun _ _ _ => place_ne_of_not_isOwnDraft hdraft, fun g hg => ?_, fun g hg => ?_⟩
  · rcases replaceActions_cases stateFile text with hactions | ⟨holder, -, -, hactions⟩
    · exact ⟨[], hactions⟩
    · exact ⟨[holder], hactions⟩
  · exact (held_of_leavesAll hf hdraft hway hg).imp_right Files.readText_eq_ok_iff.mpr
  · exact (held_of_runAll_eq hf hdraft hg).imp_left Files.readText_eq_ok_iff.mpr

/-- An old state file in a directory is replaced, and no moment shows anything else. -/
theorem stateFile_replaced_whole_old :
    let f : Files := (Files.put {} ["run"] .directory).put ["run", "state.json"]
      (.file "old".toUTF8)
    f.Rooted ∧ ¬IsOwnDraft "/run/state.json" ∧ f.ClearWay "/run/state.json" ∧
      f.readText "/run/state.json" = .ok "old" ∧
      (runAll f (replaceActions "/run/state.json" "new")).2.isNone = true ∧
      draftPath "/run/state.json" ≠ "/run/state.json" ∧
      (∀ g, LeavesAll f (replaceActions "/run/state.json" "new") g →
        g.held "/run/state.json" = f.held "/run/state.json" ∨
          g.readText "/run/state.json" = .ok "new") ∧
      ∀ g, runAll f (replaceActions "/run/state.json" "new") = (g, none) →
        g.readText "/run/state.json" = .ok "new" ∧ g.held "/run/state.tmp" = none := by
  intro f
  have hrooted : f.Rooted := by
    refine (Files.Rooted.empty.put (by simp) rfl fun _ => rfl).put (by simp) rfl ?_
    rw [Files.lookup_put (by simp)]
    simp [Files.lookup]
  have hdraft : ¬IsOwnDraft "/run/state.json" := by decide
  have hway : f.ClearWay "/run/state.json" := .inl (by decide)
  obtain ⟨-, hpaths, -, hleft, hdone⟩ :=
    @stateFile_replaced_whole f "/run/state.json" "new" hrooted hdraft hway
  exact ⟨hrooted, hdraft, hway, by decide +kernel, by decide +kernel, hpaths (by decide), hleft,
    hdone⟩

/-- A state file that is its own draft is written in its place: while its directory stands, any
beginning of the new text may be all that is left. -/
theorem held_of_own_draft_written (hf : f.Rooted) (hdraft : draftPath stateFile = stateFile)
    (hholder : ∀ holder, Path.parent? stateFile = some holder → holder ≠ "" →
      f.isDirectory holder = true) {bytes : Nat}
    (hg : f.writeBytes stateFile (text.toUTF8.extract 0 bytes) = .ok g) :
    LeavesAll f (replaceActions stateFile text) g ∧
      g.held stateFile = some (.file (text.toUTF8.extract 0 bytes)) := by
  refine ⟨?_, hf.held_writeBytes hg⟩
  have hwrite : LeavesAll f
      [.write (draftPath stateFile) text, .move (draftPath stateFile) stateFile] g :=
    .within _ (.partly bytes (hdraft.symm ▸ hg))
  rcases replaceActions_cases stateFile text with hactions | ⟨holder, hparent, hne, hactions⟩
  · exact hactions ▸ hwrite
  · rw [hactions]
    refine .next ?_ hwrite
    rw [run, Files.makeDirectories_of_isDirectory (hholder holder hparent hne)]

end

end ChassisWatch
