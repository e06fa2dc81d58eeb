import CssTrim.Proofs.Folder
import CssTrim.Proofs.Text.Utf8
import CssTrim.Tool

/-!
# Backups

Two of the tools replace the stylesheet, and write what they have read of it to a
backup before.  Does the backup hold the octets that the stylesheet had?  There are
four groups.

* Plans.  `Plan.Completes` says that all steps of a plan can be done, one after the
  other.
* Writing a backup and then the stylesheet.  The second write leaves the first one
  alone, since the two paths lead to different places.
* Where the replacement stands in the plan of each tool.
* `bytes?_backup` says what the backup holds.  The octets of a file that is no
  UTF-8, or has carriage returns, are lost, as `bytes?_backup_carriage_return`
  shows.
-/

namespace CssTrim.Tool

/-! ## Plans -/

namespace Plan

/-- Whether all steps can be done, and make one folder of another. -/
def Completes (f : Folder) (steps : List Step) (g : Folder) : Prop :=
  (perform f steps).1 = g ∧ (perform f steps).2.2 = true

variable {f g : Folder}

theorem completes_nil_iff : Completes f [] g ↔ f = g := by
  simp [Completes, perform]

theorem completes_print_iff {line : Text} {rest : List Step} :
    Completes f (.print line :: rest) g ↔ Completes f rest g := by
  rw [Completes, perform, Completes]

theorem completes_write_iff {p : Path} {t : Text} {rest : List Step} :
    Completes f (.write p t :: rest) g ↔ ∃ h, f.write? p t = some h ∧ Completes h rest g := by
  rw [Completes, perform]
  cases f.write? p t with
  | none => simp
  | some h => simp [Completes]

theorem completes_append_iff {front back : List Step} :
    Completes f (front ++ back) g ↔ ∃ h, Completes f front h ∧ Completes h back g := by
  induction front generalizing f with
  | nil => simp [completes_nil_iff]
  | cons step front ih =>
    rw [List.cons_append]
    cases step with
    | print line =>
      rw [completes_print_iff, ih]
      simp only [completes_print_iff]
    | write p t =>
      simp only [completes_write_iff, ih]
      constructor
      · rintro ⟨k, hk, h, hfront, hback⟩
        exact ⟨h, ⟨k, hk, hfront⟩, hback⟩
      · rintro ⟨h, ⟨k, hk, hfront⟩, hback⟩
        exact ⟨k, hk, h, hfront, hback⟩

/-- A plan that ends well has been done. -/
theorem completes_carryOut {p : Plan} (h : (p.carryOut f).exit = .done) :
    Completes f p.steps (p.carryOut f).folder := by
  refine ⟨rfl, ?_⟩
  rw [carryOut] at h
  dsimp only at h
  split at h
  · assumption
  · cases h

end Plan

/-! ## Writing a backup and then the stylesheet -/

/-- A backup holds the text that was read, whatever is written to the stylesheet behind it. -/
theorem bytes?_of_completes_replaceStylesheet {f g h : Folder} {p : Path}
    {ending old new line : Text} (hending : 2 < ending.length)
    (hnone : f.exists? (p.withEnding ending) = false)
    (hcompletes : Plan.Completes g
      (replaceStylesheet f p (p.withEnding ending) old new ++ [.print line]) h) :
    h.bytes? (p.withEnding ending) = some (Text.Utf8.encode old) := by
  have hsteps : replaceStylesheet f p (p.withEnding ending) old new ++ [.print line] =
      [.write (p.withEnding ending) old, .write p (new ++ ['\n']), .print line] := by
    rw [replaceStylesheet, backUp, hnone]
    rfl
  rw [hsteps] at hcompletes
  obtain ⟨k, hbackup, hrest⟩ := Plan.completes_write_iff.1 hcompletes
  obtain ⟨l, hnew, hrest⟩ := Plan.completes_write_iff.1 hrest
  obtain rfl := Plan.completes_nil_iff.1 (Plan.completes_print_iff.1 hrest)
  have hbytes := Folder.bytes?_of_write? hbackup
  obtain ⟨place, hplace, -⟩ := Folder.bytes?_eq_some_iff.1 hbytes
  exact Folder.bytes?_of_write?_of_ne hnew (Folder.place?_withEnding_ne hending hplace) hbytes

/-! ## Where the replacement stands -/

/-- A report does not end in a line break. -/
theorem getLast?_print_object (fields : List (Text × Value)) :
    (Json.print (.object fields)).getLast? = some '\x7d' := by
  cases fields with
  | nil => rfl
  | cons field fields =>
    rw [Json.print, Json.printAt]
    exact List.getLast?_concat

theorem readText_of_text? {f : Folder} {p : Path} {t : Text} (h : f.text? p = some t) :
    readText f p = .ok t := by
  rw [readText, h]

namespace Plan

/-- A plan with steps has come to them. -/
theorem exists_ok_of_mem_ofSteps {notices : List Settings.Notice} {r : Except Exit (List Step)}
    {step : Step} (h : step ∈ (ofSteps notices r).steps) :
    ∃ steps, r = .ok steps ∧ (ofSteps notices r).steps = steps := by
  cases r with
  | error exit => exact absurd h List.not_mem_nil
  | ok steps => exact ⟨steps, rfl, rfl⟩

end Plan

/-- Whether the stylesheet is replaced at the end of these steps, with a backup before. -/
def Replaces (f : Folder) (p backup : Path) (old : Text) (steps : List Step) : Prop :=
  ∃ front new line, steps = front ++ (replaceStylesheet f p backup old new ++ [.print line])

namespace Prune

theorem exists_stepsFor_of_mem {host : Host} {e : Environment} {f : Folder} {g : Given}
    {old : Text}
    (hold : f.text? g.cssPath = some old) {step : Step} (h : step ∈ (planFor host e f g).steps) :
    ∃ documents r, (planFor host e f g).steps = stepsFor f g documents old r := by
  rw [planFor] at h ⊢
  split at h
  · rename_i hexists
    rw [if_pos hexists]
    obtain ⟨steps, hok, hsteps⟩ := Plan.exists_ok_of_mem_ofSteps h
    rw [hsteps]
    rw [readText_of_text? hold] at hok
    cases hload :
      (Settings.load host.loader e f g.envFile (g.value? whitelistFlag.name)).outcome with
    | error err =>
      rw [hload] at hok
      cases hok
    | ok s =>
      cases hdocuments : readDocuments f g with
      | error exit =>
        rw [hload, hdocuments] at hok
        cases hok
      | ok documents =>
        cases hchecked : s.checked host.patterns with
        | error err =>
          rw [hload, hdocuments] at hok
          dsimp only [Except.mapError, bind, Except.bind] at hok
          rw [hchecked] at hok
          cases hok
        | ok s' =>
          rw [hload, hdocuments] at hok
          dsimp only [Except.mapError, bind, Except.bind] at hok
          rw [hchecked] at hok
          exact ⟨documents, _, (Except.ok.inj hok).symm⟩
  · exact absurd h List.not_mem_nil

/-- Of the steps of the tool, the report is no stylesheet. -/
theorem replaces_of_mem {host : Host} {e : Environment} {f : Folder} {g : Given}
    {old new : Text}
    (hold : f.text? g.cssPath = some old)
    (h : .write g.cssPath (new ++ ['\n']) ∈ (planFor host e f g).steps) :
    Replaces f g.cssPath (g.cssPath.withEnding backupEnding) old (planFor host e f g).steps := by
  obtain ⟨documents, r, hsteps⟩ := exists_stepsFor_of_mem hold h
  rw [hsteps] at h ⊢
  rw [stepsFor] at h ⊢
  split at h
  · rename_i hchanges
    rw [if_pos hchanges]
    exact ⟨_, r.css, summary g r.stats, List.append_assoc _ _ _⟩
  · simp only [List.append_nil, List.mem_append, List.mem_cons, List.mem_map, Step.write.injEq,
      reduceCtorEq, and_false, exists_false, List.not_mem_nil, or_false] at h
    have hlast := congrArg List.getLast? h.2
    rw [List.getLast?_concat, getLast?_print_object] at hlast
    exact absurd hlast (by decide)

end Prune

namespace CombineMedia

theorem exists_stepsFor_of_mem {host : Host} {e : Environment} {f : Folder} {g : Given}
    {old : Text}
    (hold : f.text? g.cssPath = some old) {step : Step} (h : step ∈ (planFor host e f g).steps) :
    ∃ r, (planFor host e f g).steps = stepsFor f g old r := by
  rw [planFor, readText_of_text? hold] at h ⊢
  split at h
  · rename_i hexists
    rw [if_pos hexists]
    obtain ⟨steps, hok, hsteps⟩ := Plan.exists_ok_of_mem_ofSteps h
    rw [hsteps]
    cases hload : (Settings.load host.loader e f g.envFile none).outcome with
    | error err =>
      rw [hload] at hok
      cases hok
    | ok s =>
      rw [hload] at hok
      exact ⟨_, (Except.ok.inj hok).symm⟩
  · exact absurd h List.not_mem_nil

theorem replaces_of_mem {host : Host} {e : Environment} {f : Folder} {g : Given}
    {old new : Text}
    (hold : f.text? g.cssPath = some old)
    (h : .write g.cssPath (new ++ ['\n']) ∈ (planFor host e f g).steps) :
    Replaces f g.cssPath (g.cssPath.withEnding backupEnding) old (planFor host e f g).steps := by
  obtain ⟨r, hsteps⟩ := exists_stepsFor_of_mem hold h
  rw [hsteps] at h ⊢
  rw [stepsFor] at h ⊢
  split at h
  · rename_i hchanges
    rw [if_pos hchanges]
    exact ⟨[], r.css, summary g r.stats.merged, rfl⟩
  · simp at h

end CombineMedia

/-- The ending of the backup of a tool that keeps one. -/
def backupEnding? : Tool → Option Text
  | .prune => some Prune.backupEnding
  | .combineMedia => some CombineMedia.backupEnding
  | .extractCritical => none

theorem length_backupEnding {t : Tool} {ending : Text} (h : t.backupEnding? = some ending) :
    2 < ending.length := by
  cases t with
  | prune | combineMedia =>
    obtain rfl := Option.some.inj h
    decide
  | extractCritical => cases h

/-- A tool that replaces the stylesheet keeps a backup of the text that it has read. -/
theorem replaces_of_mem {t : Tool} {ending : Text} (ht : t.backupEnding? = some ending)
    {host : Host} {e : Environment} {f : Folder} {arguments : List Text} {g : Given}
    (hread : t.read arguments = .ok g) {old new : Text} (hold : f.text? g.cssPath = some old)
    (h : .write g.cssPath (new ++ ['\n']) ∈ (t.plan host e f arguments).steps) :
    Replaces f g.cssPath (g.cssPath.withEnding ending) old (t.plan host e f arguments).steps := by
  have hplan : t.plan host e f arguments = t.planFor host e f g := by rw [plan, hread]
  rw [hplan] at h ⊢
  cases t with
  | prune =>
    obtain rfl := Option.some.inj ht
    exact Prune.replaces_of_mem hold h
  | combineMedia =>
    obtain rfl := Option.some.inj ht
    exact CombineMedia.replaces_of_mem hold h
  | extractCritical => cases ht

/-! ## What the backup holds -/

/-- **What a backup holds.**  Where there is no backup yet, a run that replaces the stylesheet and
ends well leaves the text of the stylesheet in the backup: the line breaks are written as line
feeds, and octets that are no text are left out.  So the backup has the octets that the stylesheet
had if and only if they are those of a text without carriage returns. -/
theorem bytes?_backup {t : Tool} {ending : Text} (ht : t.backupEnding? = some ending)
    (host : Host) (e : Environment) (f : Folder) {arguments : List Text} {g : Given}
    (hread : t.read arguments = .ok g) {bytes : List UInt8} (hcss : f.bytes? g.cssPath = some bytes)
    (hnone : f.exists? (g.cssPath.withEnding ending) = false) {new : Text}
    (hnew : .write g.cssPath (new ++ ['\n']) ∈ (t.plan host e f arguments).steps)
    (hdone : (t.run host e f arguments).exit = .done) :
    let backup := (t.run host e f arguments).folder.bytes? (g.cssPath.withEnding ending)
    backup = some (Text.Utf8.encode (Text.unifyBreaks (Text.Utf8.decodeSkipping bytes))) ∧
      (backup = some bytes ↔ ∃ css, '\r' ∉ css ∧ bytes = Text.Utf8.encode css) := by
  intro backup
  have hold : f.text? g.cssPath = some (Text.unifyBreaks (Text.Utf8.decodeSkipping bytes)) := by
    rw [Folder.text?, hcss]
    rfl
  obtain ⟨front, new, line, hsteps⟩ := replaces_of_mem ht hread hold hnew
  have hcompletes := Plan.completes_carryOut hdone
  rw [hsteps] at hcompletes
  obtain ⟨h, -, hreplace⟩ := Plan.completes_append_iff.1 hcompletes
  have hbackup : backup =
      some (Text.Utf8.encode (Text.unifyBreaks (Text.Utf8.decodeSkipping bytes))) :=
    bytes?_of_completes_replaceStylesheet (length_backupEnding ht) hnone hreplace
  refine ⟨hbackup, ?_⟩
  rw [hbackup, Option.some.injEq, Text.encode_unifyBreaks_decodeSkipping_iff]

/-- A stylesheet with a character of two octets and line feeds, whose media blocks are merged. -/
theorem bytes?_backup_line_feed :
    let css := "@media a\x7b.é\x7b\x7d\x7d\n@media a\x7b\x7d\n".toList
    let f : Folder := { nodes := [(["style.css".toList], .file (Text.Utf8.encode css))] }
    let arguments := ["--root".toList, ['.']]
    let g : Given := [("--root".toList, ['.'])]
    let after := Tool.combineMedia.run {} {} f arguments
    let backup := g.cssPath.withEnding ".media.bak".toList
    f.bytes? g.cssPath = some (Text.Utf8.encode css) ∧ f.exists? backup = false ∧
      after.exit = .done ∧ after.folder.bytes? g.cssPath ≠ some (Text.Utf8.encode css) ∧
        after.folder.bytes? backup = some (Text.Utf8.encode css) := by
  intro css f arguments g after backup
  have hcss : f.bytes? g.cssPath = some (Text.Utf8.encode css) := by decide +kernel
  have hnone : f.exists? backup = false := by decide +kernel
  have hread : Tool.combineMedia.read arguments = .ok g := by rfl
  have hnew : .write g.cssPath ("@media a \x7b\n.é\x7b\x7d\n\x7d".toList ++ ['\n']) ∈
      (Tool.combineMedia.plan {} {} f arguments).steps := by
    decide +kernel
  have hdone : after.exit = .done := by decide +kernel
  obtain ⟨-, hiff⟩ := bytes?_backup rfl {} {} f hread hcss hnone hnew hdone
  exact ⟨hcss, hnone, hdone, by decide +kernel, hiff.2 ⟨css, by decide, rfl⟩⟩

/-- A carriage return in the stylesheet is missing in the backup. -/
theorem bytes?_backup_carriage_return :
    let bytes := Text.Utf8.encode "@media a\x7b\x7d\r\n@media a\x7b\x7d".toList
    let f : Folder := { nodes := [(["style.css".toList], .file bytes)] }
    let after := Tool.combineMedia.run {} {} f ["--root".toList, ['.']]
    let backup := Path.ofText "style.css.media.bak".toList
    f.bytes? (.ofText "style.css".toList) = some bytes ∧ f.exists? backup = false ∧
      after.exit = .done ∧
        after.folder.bytes? (.ofText "style.css".toList) =
          some (Text.Utf8.encode "@media a \x7b\n\n\x7d\n".toList) ∧
          after.folder.bytes? backup =
            some (Text.Utf8.encode "@media a\x7b\x7d\n@media a\x7b\x7d".toList) ∧
            after.folder.bytes? backup ≠ some bytes := by
  decide +kernel

end CssTrim.Tool
