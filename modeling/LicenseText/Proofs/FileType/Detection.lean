import LicenseText.Proofs.Text.Extension
import LicenseText.Proofs.Text.Lookup

/-!
# How the type of a file is detected

The overrides decide if they have the extension of the path, then the known extensions, and
only when neither has it the content. So the type depends on the path through its extension
in lower case alone, and on the overrides through what they say of that extension. An
extension that is no text is in neither list.
-/

namespace LicenseText

namespace FileType

/-- Neither the overrides nor the known extensions have the extension of the path. -/
def IsInconclusive (overrides : Overrides) (path : Bytes) : Prop :=
  ∀ extension, extensionText? path = some extension →
    overrides.find? extension.lowerAscii = none ∧
      ∀ type, (extension.lowerAscii, type) ∉ extensions

theorem nodup_extensions : (extensions.map Prod.fst).Nodup := by decide

section Detect

variable {overrides : Overrides} {path : Bytes} {content extension : Text} {type : FileType}

theorem detect_of_find? (hextension : extensionText? path = some extension)
    (hfind : overrides.find? extension.lowerAscii = some type) :
    detect overrides path content = type := by
  rw [detect, hextension, Option.map_some]
  dsimp only
  rw [hfind]

theorem detect_of_mem_extensions (hextension : extensionText? path = some extension)
    (hfind : overrides.find? extension.lowerAscii = none)
    (hknown : (extension.lowerAscii, type) ∈ extensions) :
    detect overrides path content = type := by
  rw [detect, hextension, Option.map_some]
  dsimp only
  rw [hfind, lookup_of_mem nodup_extensions hknown]
  rfl

theorem detect_of_isInconclusive (h : IsInconclusive overrides path) (content : Text) :
    detect overrides path content = ofInterpreterLine content := by
  rw [detect]
  cases hextension : extensionText? path with
  | none => rfl
  | some extension =>
      obtain ⟨hfind, hunknown⟩ := h extension hextension
      have hlookup : extensions.lookup extension.lowerAscii = none := by
        rw [Option.eq_none_iff_forall_ne_some]
        intro type htype
        exact hunknown type (mem_of_lookup htype)
      rw [Option.map_some]
      dsimp only
      rw [hfind, hlookup]
      rfl

/-- The type depends on the extension in lower case and on what the overrides say of it. -/
theorem detect_congr {overrides' : Overrides} {path' : Bytes}
    (hpath : (extensionText? path').map Text.lowerAscii =
      (extensionText? path).map Text.lowerAscii)
    (hfind : ∀ extension ∈ extensionText? path,
      overrides'.find? extension.lowerAscii = overrides.find? extension.lowerAscii) :
    detect overrides' path' content = detect overrides path content := by
  rw [detect, detect, hpath]
  cases hextension : extensionText? path with
  | none => rfl
  | some extension =>
      rw [Option.map_some]
      dsimp only
      rw [hfind extension hextension]

end Detect

end FileType

end LicenseText
