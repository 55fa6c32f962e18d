import ScriptHost.Proofs.Paths

/-!
# Putting a file in its place

A file is written as a draft beside its place and the draft is renamed.  As long as the draft exists,
the file system is the one before with one new file in it; a failure removes the file again, and the
renaming makes it the only change.

* `FileSystem.Drafted` — the invariant between the making of a draft and its end.
* `FileSystem.replace_error` — **a failure at whatever step leaves the file system as it was**.
* `FileSystem.replace_ok` — **a success changes what stands at the place of the path, and nothing
  else**.
-/

namespace ScriptHost.FileSystem

open ScriptHost.Tree

variable {fs fs' fs₁ fs₂ : FileSystem} {location : List String} {bytes written : List UInt8}
  {path : String} {d : Draft} {e : IoError}

/-! ## Drafts -/

/-- A file system differs from another one by a draft that holds some bytes. -/
structure Drafted (fs : FileSystem) (d : Draft) (bytes : List UInt8) (fs' : FileSystem) : Prop where
  vacant : fs.root.Vacant d.location
  eq : fs' = { fs with root := Tree.put (.file bytes) d.location fs.root }

theorem draft_error (h : fs.draft path = (.error e, fs')) : fs' = fs := by
  unfold draft at h
  split at h
  · cases h; rfl
  · split at h
    · cases h; rfl
    · cases h; rfl
    · split at h <;> cases h
      rfl

/-- A draft is empty at first, and has a name of its own. -/
theorem draft_ok (h : fs.draft path = (.ok d, fs')) : Drafted fs d [] fs' := by
  unfold draft at h
  split at h
  · cases h
  · next at0 _ =>
    split at h
    · cases h
    · cases h
    · next entries hget =>
      split at h
      · cases h
      · cases h
        refine ⟨⟨at0, entries, _, rfl, hget, List.lookup_eq_none_iff.2 fun p hp => ?_⟩, rfl⟩
        have hmem : p.1 ∈ entries.map (·.1) := List.mem_map_of_mem hp
        have hne : fs.naming.choose (entries.map (·.1)) ≠ p.1 := fun heq =>
          fs.naming.choose_not_mem _ (heq.symm ▸ hmem)
        simpa using hne

namespace Drafted

/-- A draft stays one whatever is written to it. -/
theorem write {result : Except IoError Unit} (h : Drafted fs d written fs₁)
    (hwrite : fs₁.write d bytes = (result, fs₂)) :
    ∃ now, Drafted fs d now fs₂ ∧ (result = .ok () → now = bytes) := by
  obtain ⟨hvacant, rfl⟩ := h
  unfold FileSystem.write at hwrite
  split at hwrite
  · next n e _ =>
    cases hwrite
    exact ⟨bytes.take n, ⟨hvacant, by simp⟩, fun hok => by cases hok⟩
  · cases hwrite
    exact ⟨bytes, ⟨hvacant, by simp⟩, fun _ => rfl⟩

/-- A draft that is removed leaves nothing behind. -/
theorem remove (h : Drafted fs d bytes fs₁) : fs₁.remove d = fs := by
  obtain ⟨hvacant, rfl⟩ := h
  simp [FileSystem.remove, erase_put hvacant]

theorem rename_error (hrename : fs₁.rename d path = (.error e, fs₂)) : fs₂ = fs₁ := by
  unfold FileSystem.rename at hrename
  split at hrename
  · cases hrename; rfl
  · split at hrename
    · cases hrename; rfl
    · split at hrename <;> cases hrename
      rfl

/-- A draft that is renamed stands at its new place as if it had been made there. -/
theorem rename_ok (h : Drafted fs d bytes fs₁) (hrename : fs₁.rename d path = (.ok (), fs₂)) :
    ∃ location, fs₁.target path = .ok location
      ∧ fs₂ = { fs with root := Tree.put (.file bytes) location fs.root } := by
  obtain ⟨hvacant, rfl⟩ := h
  unfold FileSystem.rename at hrename
  split at hrename
  · cases hrename
  · next location htarget =>
    split at hrename
    · cases hrename
    · split at hrename
      · cases hrename
      · next file hfile =>
        cases hrename
        obtain rfl : file = .file bytes := by
          have hput : (Tree.put (.file bytes) d.location fs.root).node? d.location
              = some (.file bytes) := by
            rw [hvacant.node?_put, if_pos rfl]
          exact Option.some.inj (hfile.symm.trans (node?_eq_file.1 hput))
        exact ⟨location, htarget, by simp [erase_put hvacant]⟩

/-- A draft is no directory, and no directory gives way to it. -/
theorem directories (h : Drafted fs d bytes fs₁) (l : List String) :
    fs₁.root.node? l = some .directory ↔ fs.root.node? l = some .directory := by
  obtain ⟨hvacant, rfl⟩ := h
  rw [hvacant.node?_put]
  split
  · next hl => simp [hl, hvacant.node?_eq_none]
  · rfl

/-- The place that is found while there is a draft is one without it too, and what is put there is what
the path then names. -/
theorem placed (h : Drafted fs d written fs₁) (htarget : fs₁.target path = .ok location)
    (heq : fs' = { fs with root := Tree.put (.file bytes) location fs.root }) :
    fs'.locate path = .ok location ∧ KeepsDirectories fs fs'
      ∧ ∀ l, fs'.root.node? l = if l = location then some (.file bytes) else fs.root.node? l := by
  obtain ⟨directory, last, hplace, rfl, hfree⟩ := target_ok htarget
  have hnode (l) : fs'.root.node? l = if l = directory ++ [String.ofList last] then
      some (.file bytes) else fs.root.node? l := by
    rw [heq]
    exact node?_put ((h.directories _).1 hplace.isDirectory)
      (fun hdir => hfree ((h.directories _).2 hdir)) l
  have hkeep : KeepsDirectories fs₁ fs' := fun l hl => by
    have hother : l ≠ directory ++ [String.ofList last] := fun hl' => hfree (hl' ▸ hl)
    rw [hnode, if_neg hother]
    exact (h.directories l).1 hl
  exact ⟨hplace.locate hkeep (by rw [heq, h.eq]) (by simp [hnode]),
    fun l hl => hkeep l ((h.directories l).2 hl), hnode⟩

end Drafted

/-! ## Files in place -/

/-- The steps in which a file is put in its place. -/
theorem replace_run : (files.replace path bytes).run fs = match fs.draft (parentPath path) with
    | (.error e, fs₁) => (.error (parentPath path, e), fs₁)
    | (.ok d, fs₁) => match fs₁.write d bytes with
      | (.error e, fs₂) => (.error (d.path, e), fs₂.remove d)
      | (.ok _, fs₂) => match fs₂.rename d path with
        | (.error e, fs₃) => (.error (path, e), fs₃.remove d)
        | (.ok _, fs₃) => (.ok (), fs₃) := by
  rcases hdraft : fs.draft (parentPath path) with ⟨e | d, fs₁⟩
  · simp [Files.replace, files, hdraft]
    rfl
  · rcases hwrite : fs₁.write d bytes with ⟨e | _, fs₂⟩
    · simp [Files.replace, files, hdraft, hwrite]
      rfl
    · rcases hrename : fs₂.rename d path with ⟨e | _, fs₃⟩ <;>
        simp [Files.replace, files, hdraft, hwrite, hrename] <;> rfl

/-- A file that cannot be put in its place leaves everything as it was, with no draft beside it. -/
theorem replace_error {failure : String × IoError}
    (h : (files.replace path bytes).run fs = (.error failure, fs')) : fs' = fs := by
  rw [replace_run] at h
  rcases hdraft : fs.draft (parentPath path) with ⟨e | d, fs₁⟩
  · cases hdraft ▸ h
    exact draft_error hdraft
  · rw [hdraft] at h
    dsimp only at h
    have hdrafted := draft_ok hdraft
    rcases hwrite : fs₁.write d bytes with ⟨e | _, fs₂⟩
    all_goals
      rw [hwrite] at h
      dsimp only at h
      obtain ⟨written, hwritten, -⟩ := hdrafted.write hwrite
    · cases h
      exact hwritten.remove
    · rcases hrename : fs₂.rename d path with ⟨e | _, fs₃⟩
      · cases hrename ▸ h
        rw [Drafted.rename_error hrename, hwritten.remove]
      · cases hrename ▸ h

/-- A file that was put in its place is what the path names, and nothing else has changed. -/
theorem replace_ok (h : (files.replace path bytes).run fs = (.ok (), fs')) :
    ∃ location, fs'.locate path = .ok location
      ∧ fs' = { fs with root := Tree.put (.file bytes) location fs.root } ∧ KeepsDirectories fs fs'
      ∧ ∀ l, fs'.root.node? l = if l = location then some (.file bytes) else fs.root.node? l := by
  rw [replace_run] at h
  rcases hdraft : fs.draft (parentPath path) with ⟨e | d, fs₁⟩
  · cases hdraft ▸ h
  · rw [hdraft] at h
    dsimp only at h
    rcases hwrite : fs₁.write d bytes with ⟨e | _, fs₂⟩
    · cases hwrite ▸ h
    · rw [hwrite] at h
      dsimp only at h
      obtain ⟨written, hwritten, hbytes⟩ := (draft_ok hdraft).write hwrite
      obtain rfl : written = bytes := hbytes rfl
      rcases hrename : fs₂.rename d path with ⟨e | _, fs₃⟩
      · cases hrename ▸ h
      · cases hrename ▸ h
        obtain ⟨location, htarget, heq⟩ := hwritten.rename_ok hrename
        obtain ⟨hlocate, hkeep, hnode⟩ := hwritten.placed htarget heq
        exact ⟨location, hlocate, heq, hkeep, hnode⟩

/-- What a path named before is the new file if both paths are written for one location, and is as before
if they are not. -/
theorem readBytes_of_replace {other : String} {content : List UInt8}
    (h : (files.replace path bytes).run fs = (.ok (), fs')) (hread : fs.readBytes other = .ok content) :
    fs'.readBytes other = .ok (if fs.resolve other = fs.resolve path then bytes else content) := by
  obtain ⟨location, hlocate, heq, hkeep, hnode⟩ := replace_ok h
  have hhere : fs'.here = fs.here := by rw [heq]
  have hpath : location = fs.resolve path := by rw [locate_eq_resolve hlocate, resolve_congr hhere]
  obtain ⟨l, hl, hfile⟩ := readBytes_eq_ok.1 hread
  have hthere : fs'.root.node? l
      = some (.file (if fs.resolve other = fs.resolve path then bytes else content)) := by
    rw [hnode, hfile, locate_eq_resolve hl, hpath]
    split <;> rfl
  exact readBytes_eq_ok.2 ⟨l, locate_of_directories hkeep hl hhere (by simp [hthere]), hthere⟩

end ScriptHost.FileSystem
