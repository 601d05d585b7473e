import TypedTag.Files.View
import TypedTag.Proofs.Files.Follow

/-! # Walks from files

A path that leads to a file, with or without links on the way, is walked in one step, which meets
the file by that very path. A device is met in one step, too, but it is no file and has no text.
-/

namespace TypedTag.Files

/-- A walk from a file meets that file and nothing else. -/
def FileView.WalksFiles (files : FileView) : Prop :=
  ∀ path, files.isFile path = true → files.walk path = [.ok ⟨path, true⟩]

namespace Tree

variable {t : Tree} {path : String} {place : Location} {number : Nat}

theorem walkFrom_of_file {depth : Nat} {above : List (String × Location)}
    (h : t.node? place = some (.file number)) :
    t.walkFrom (depth + 1) above path place = [.ok ⟨path, true⟩] := by
  rw [walkFrom, h]

theorem walkFrom_of_link {depth : Nat} {above : List (String × Location)} {target : String}
    {found : Location} (h : t.node? place = some (.link target))
    (hf : t.find .target path = .ok (found, .file number)) :
    t.walkFrom (depth + 1) above path place = [.ok ⟨path, true⟩] := by
  rw [walkFrom, h]
  simp only [hf]

theorem walksFiles_view (t : Tree) : t.view.WalksFiles := by
  intro path h
  obtain ⟨⟨place, number⟩, hf⟩ := Option.isSome_iff_exists.mp h
  obtain ⟨hl, hn⟩ := file?_eq_some_iff.mp hf
  obtain ⟨hp, hleads⟩ := locate_eq_ok_iff.mp hl
  obtain ⟨met, hmet, hm⟩ := hleads.entry
  have hloc : t.locate .entry path = .ok met := locate_eq_ok_iff.mpr ⟨hp, hmet⟩
  rcases hm with rfl | ⟨target, hlink⟩
  · have hf : t.find .entry path = .ok (met, .file number) := find_eq_ok_iff.mpr ⟨hloc, hn⟩
    show t.walk path = _
    rw [walk, hf]
    exact walkFrom_of_file hn
  · have hf : t.find .entry path = .ok (met, .link target) := find_eq_ok_iff.mpr ⟨hloc, hlink⟩
    show t.walk path = _
    rw [walk, hf]
    exact walkFrom_of_link hlink (find_eq_ok_iff.mpr ⟨hl, hn⟩)

section Device

variable (hn : t.node? place = some .device)
include hn

theorem walk_of_device (hl : t.locate .entry path = .ok place) :
    t.walk path = [.ok ⟨path, false⟩] := by
  have hw {depth : Nat} {above : List (String × Location)} :
      t.walkFrom (depth + 1) above path place = [.ok ⟨path, false⟩] := by
    rw [walkFrom, hn]
  rw [walk, find_eq_ok_iff.mpr ⟨hl, hn⟩]
  exact hw

theorem file?_of_device (hl : t.locate .target path = .ok place) : t.file? path = none := by
  rw [file?, find_eq_ok_iff.mpr ⟨hl, hn⟩]

theorem read_of_device (hl : t.locate .target path = .ok place) :
    t.read path = .error (.notFile path) := by
  rw [read, file?_of_device hn hl]

end Device

end Tree

end TypedTag.Files
