import PaintPresenter.Graphics.Interface

/-!
# The one texture of a renderer

A renderer holds at most one texture, together with the size it was created with. An upload of
that size overwrites it in place. An upload of another size waits until the device is idle, since
the last frame may still sample the old texture, releases it and creates a new one.
-/

namespace PaintPresenter

/-- What an upload did. -/
inductive UploadOutcome
  /-- There was no texture; one was created. -/
  | created
  /-- The texture had the size of the upload and was overwritten. -/
  | updated
  /-- The texture had another size and was replaced. -/
  | recreated
  deriving DecidableEq, Repr

/-- The outcome in one word. -/
def UploadOutcome.name : UploadOutcome → String
  | created => "Created"
  | updated => "Updated"
  | recreated => "Recreated"

/-- At most one texture and its size. -/
structure HeldTexture (τ : Type) where
  current : Option (τ × Extent) := none

namespace HeldTexture

variable {τ ρ : Type}

/-- An operation on the held texture. -/
abbrev Task (τ ρ α : Type) := Stateful (HeldTexture τ) (Graphics τ ρ) GraphicsError α

/-- Creates a texture and holds it. -/
def place (pixels : PixelBuffer) : Task τ ρ Unit := do
  let texture ← .ofTask (Graphics.createTexture pixels)
  set (⟨some (texture, pixels.extent)⟩ : HeldTexture τ)

/-- Uploads an image. A failed wait or overwrite leaves the texture as it was; a failed creation
leaves none. -/
def upload (pixels : PixelBuffer) : Task τ ρ UploadOutcome := do
  match (← get).current with
  | none =>
    place pixels
    return .created
  | some (texture, size) =>
    if size = pixels.extent then
      .ofTask (Graphics.updateTexture texture pixels)
      return .updated
    else
      let old := size.text
      let new := pixels.extent.text
      Stateful.log .debug s!"texture size {old} -> {new}"
      .ofTask Graphics.waitIdle
      set (⟨none⟩ : HeldTexture τ)
      .ofProgram (Graphics.releaseTexture texture)
      place pixels
      return .recreated

/-- Releases the texture, if there is one. The device must be idle. -/
def clear : StateT (HeldTexture τ) (Program (Graphics τ ρ)) Unit := fun held =>
  match held.current with
  | none => return ((), held)
  | some (texture, _) => do
    Graphics.releaseTexture texture
    return ((), ⟨none⟩)

/-- The texture itself. -/
def texture? (held : HeldTexture τ) : Option τ := held.current.map Prod.fst

end HeldTexture

end PaintPresenter
