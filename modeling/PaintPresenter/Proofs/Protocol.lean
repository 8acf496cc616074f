import PaintPresenter.Proofs.Conduct

/-!
# The protocol between a renderer and its stack

Whatever is asked of a renderer, in whatever order, and whatever its stack replies, the calls that
reach the stack follow one protocol: where the renderer stands in a frame, which texture it holds
and whether it owes a rebuild say which calls may come next. `serve_follows` proves this once, for
every stack; statements about a particular kind of stack then need to look at one call at a time.
-/

namespace PaintPresenter

namespace Renderer

variable {τ ρ : Type}

/-- What the owner of a renderer asks of it. -/
inductive Request
  | requestSize (extent : Extent)
  | beginFrame
  | endFrame
  | upload (pixels : PixelBuffer)
  | uploadPaint (frame : PaintFrame)
  | setClearColor (color : Color)
  | binding
  | shutdown

/-- Runs an operation and leaves its result to nobody. -/
def ignoring {α : Type} (task : Task τ ρ α) : Action τ ρ Unit := fun r => do
  let (_, r) ← task.run r
  return ((), r)

/-- Does what one request asks for. -/
def perform : Request → Action τ ρ Unit
  | .requestSize extent => requestSize extent
  | .beginFrame => ignoring beginFrame
  | .endFrame => ignoring endFrame
  | .upload pixels => ignoring (upload pixels)
  | .uploadPaint frame => ignoring (uploadPaint frame)
  | .setClearColor clearColor => fun r => return ((), { r with clearColor })
  | .binding => fun r => do
    let (_, r) ← binding? r
    return ((), r)
  | .shutdown => ignoring shutdown

/-- Does what requests ask for, one after the other. -/
def serve : List Request → Action τ ρ Unit
  | [] => fun r => return ((), r)
  | request :: later => fun r => do
    let ((), r) ← perform request r
    serve later r

end Renderer

/-! ## The protocol -/

/-- Where a renderer stands between two calls. -/
inductive Phase
  /-- Between frames. -/
  | resting
  /-- The previous submission has been waited for. -/
  | waited
  /-- An image has been taken. -/
  | acquired (image : UInt32)
  /-- No image could be taken because the swapchain is out of date. -/
  | late
  /-- A frame is being recorded. -/
  | recording (image : UInt32)
  /-- A recording is finished. -/
  | recorded (image : UInt32)
  /-- A frame was given up to shut down. -/
  | leaving
  /-- The stack has been torn down. -/
  | gone
  deriving DecidableEq, Repr

/-- The phase of a renderer, the texture that it holds, and whether it owes a rebuild. -/
structure Position (τ : Type) where
  phase : Phase
  held : Option (τ × Extent)
  owed : Bool

namespace Position

variable {τ ρ : Type}

/-- The calls that may come next. -/
def Allows (p : Position τ) : GraphicsCall τ → Prop
  | .extent => True
  | .waitForPrevious => p.phase = .resting ∧ p.owed = false
  | .acquire => p.phase = .waited ∧ p.owed = false
  | .beginPass image _ => p.phase = .acquired image
  | .endPass => ∃ image, p.phase = .recording image
  | .present image => p.phase = .recorded image
  | .rebuild _ => p.phase = .resting ∨ p.phase = .late
  | .createTexture _ => p.phase = .resting ∧ p.held = none
  | .updateTexture texture pixels => p.phase = .resting ∧ p.held = some (texture, pixels.extent)
  | .releaseTexture texture =>
    (p.phase = .resting ∨ p.phase = .leaving) ∧ ∃ size, p.held = some (texture, size)
  | .binding texture =>
    (p.phase = .resting ∨ ∃ image, p.phase = .recording image) ∧
      ∃ size, p.held = some (texture, size)
  | .waitIdle => p.phase = .resting ∨ ∃ image, p.phase = .recording image
  | .tearDown => (p.phase = .resting ∨ p.phase = .leaving) ∧ p.held = none

/-- Where a call and its reply lead. -/
def next (p : Position τ) : (call : GraphicsCall τ) → call.Reply ρ → Position τ
  | .waitForPrevious, .ok () => { p with phase := .waited }
  | .acquire, .ok image =>
    { p with phase := .acquired image.index, owed := image.suboptimal || p.owed }
  | .acquire, .error e => { p with phase := if e = .outOfDate then .late else .resting }
  | .beginPass image _, .ok _ => { p with phase := .recording image }
  | .beginPass _ _, .error _ => { p with phase := .resting }
  | .endPass, .ok () =>
    match p.phase with
    | .recording image => { p with phase := .recorded image }
    | _ => p
  | .endPass, .error _ => { p with phase := .resting }
  | .present _, .ok outcome =>
    { p with phase := .resting, owed := decide (outcome ≠ .presented) || p.owed }
  | .present _, .error _ => { p with phase := .resting }
  | .rebuild _, .ok () => { p with phase := .resting, owed := false }
  | .rebuild _, .error _ => { p with phase := .resting }
  | .createTexture pixels, .ok texture => { p with held := some (texture, pixels.extent) }
  | .releaseTexture _, _ => { p with held := none }
  | .waitIdle, _ =>
    match p.phase with
    | .recording _ => { p with phase := .leaving }
    | _ => p
  | .tearDown, _ => { p with phase := .gone }
  | _, _ => p

end Position

/-- The protocol as a contract: a stack may reply what it likes. -/
def protocol (τ ρ : Type) : Contract (Graphics τ ρ) (Position τ) where
  step p call reply q := q = p.next call reply
  permits := Position.Allows

namespace Renderer

variable {τ ρ : Type}

/-- The phase of a renderer that does nothing at the moment. -/
def phase (r : Renderer τ) : Phase :=
  if r.closed then .gone
  else match r.active with
    | none => .resting
    | some image => .recording image

/-- Where a renderer stands that does nothing at the moment. -/
def position (r : Renderer τ) : Position τ := ⟨r.phase, r.texture.current, r.rebuildOwed⟩

/-- After a shutdown no texture is held and no frame active. -/
def Tidy (r : Renderer τ) : Prop := r.closed = true → r.texture.current = none ∧ r.active = none

/-- A renderer that does nothing at the moment stands at `p`. -/
def RestsAt (r : Renderer τ) (p : Position τ) : Prop := p = r.position ∧ r.Tidy

/-- A renderer that was shut down stands at `p`. -/
def ClosedAt (r : Renderer τ) (p : Position τ) : Prop := r.RestsAt p ∧ r.closed = true

/-- A renderer between frames. -/
def Idle (r : Renderer τ) : Prop := r.closed = false ∧ r.active = none

/-- An idle renderer rests. -/
theorem position_of_idle {r : Renderer τ} (h : r.Idle) :
    r.position = ⟨.resting, r.texture.current, r.rebuildOwed⟩ := by
  simp [position, phase, h.1, h.2]

/-- A renderer with an active frame records into its image. -/
theorem position_of_active {r : Renderer τ} {image : UInt32} (open_ : r.closed = false)
    (h : r.active = some image) :
    r.position = ⟨.recording image, r.texture.current, r.rebuildOwed⟩ := by
  simp [position, phase, open_, h]

/-- A renderer that was shut down is gone. -/
theorem position_of_closed {r : Renderer τ} (closed : r.closed = true) :
    r.position = ⟨.gone, r.texture.current, r.rebuildOwed⟩ := by
  simp [position, phase, closed]

/-- A new renderer is tidy. -/
theorem tidy_new (clearColor : Color) : Tidy ({ clearColor } : Renderer τ) :=
  fun closed => absurd closed Bool.false_ne_true

/-- A tidy renderer with an active frame was not shut down. -/
theorem open_of_active {r : Renderer τ} {image : UInt32} (tidy : r.Tidy)
    (h : r.active = some image) : r.closed = false := by
  cases closed : r.closed with
  | false => rfl
  | true => simp [(tidy closed).2] at h

private theorem restsAt_of_idle {r : Renderer τ} {p : Position τ} (h : r.Idle) :
    r.RestsAt p ↔ p = r.position := by
  simp [RestsAt, Tidy, h.1]

end Renderer

/-! ## Operations follow the protocol -/

namespace Contract

variable {τ ρ : Type} {r : Renderer τ}

/-- The protocol permits the calls that a position allows. -/
@[simp] theorem protocol_permits (p : Position τ) (call : GraphicsCall τ) :
    (protocol τ ρ).permits p call ↔ p.Allows call := Iff.rfl

/-- A position goes on as the call and its reply say. -/
@[simp] theorem protocol_step (p q : Position τ) (call : GraphicsCall τ) (reply : call.Reply ρ) :
    (protocol τ ρ).step p call reply q ↔ q = p.next call reply := Iff.rfl

private theorem settleRebuild_follows (idle : r.Idle) :
    (protocol τ ρ).KeepsOp Renderer.settleRebuild r r.position
      (fun _ r' p => r'.Idle ∧ r'.rebuildOwed = false ∧ p = r'.position)
      fun _ r' p => r'.Idle ∧ p = r'.position := by
  rw [keepsOp_settleRebuild]
  obtain ⟨open_, inactive⟩ := idle
  cases r.pendingSize with
  | some extent =>
    simp [Position.Allows, Position.next, Renderer.Idle, open_, inactive,
      Renderer.position, Renderer.phase]
  | none =>
    by_cases owed : r.rebuildOwed = true
    · simp [owed, Position.Allows, Position.next, Renderer.Idle, open_, inactive,
        Renderer.position, Renderer.phase]
    · simp [owed, Renderer.Idle, open_, inactive]

private theorem record_follows (image : AcquiredImage) (idle : r.Idle) :
    (protocol τ ρ).KeepsOp (Renderer.record image) r
      ⟨.acquired image.index, r.texture.current, image.suboptimal || r.rebuildOwed⟩
      (fun _ r' p => r'.RestsAt p) fun _ r' p => r'.RestsAt p := by
  rw [keepsOp_record]
  obtain ⟨open_, inactive⟩ := idle
  simp [Position.Allows, Position.next, Renderer.RestsAt, Renderer.Tidy, open_, inactive,
    Renderer.position, Renderer.phase]

/-- Beginning a frame keeps to the protocol. -/
theorem beginFrame_follows (tidy : r.Tidy) :
    (protocol τ ρ).KeepsOp Renderer.beginFrame r r.position
      (fun _ r' p => r'.RestsAt p) fun _ r' p => r'.RestsAt p := by
  rw [keepsOp_beginFrame]
  by_cases closed : r.closed = true
  · simpa [closed, Renderer.RestsAt] using tidy
  by_cases active : r.active.isSome = true
  · simpa [closed, active, Renderer.RestsAt] using tidy
  by_cases minimized : r.minimized = true
  · simpa [closed, active, minimized, Renderer.RestsAt] using tidy
  have idle : r.Idle := ⟨by simpa using closed, by simpa using active⟩
  rw [if_neg closed, if_neg active, if_neg minimized]
  apply (settleRebuild_follows idle).mono
  · rintro _ r' p ⟨idle, settled, rfl⟩
    rw [Renderer.position_of_idle idle, settled]
    simp only [keepsTask_waitForPrevious, keepsTask_acquire, protocol_permits, protocol_step,
      forall_eq, Position.Allows, Position.next]
    refine ⟨⟨trivial, trivial⟩, ⟨⟨trivial, trivial⟩, ?_, ?_⟩, ?_⟩
    · intro image
      have recorded := record_follows (ρ := ρ) image idle
      rwa [settled] at recorded
    · intro e
      by_cases late : e = .outOfDate
      · simp [late, Position.Allows, Position.next, Renderer.restsAt_of_idle idle,
          Renderer.position_of_idle idle, settled]
      · simp [late, Renderer.restsAt_of_idle idle, Renderer.position_of_idle idle, settled]
    · simp [Renderer.restsAt_of_idle idle, Renderer.position_of_idle idle, settled]
  · rintro _ r' p ⟨idle, rfl⟩
    exact (Renderer.restsAt_of_idle idle).mpr rfl

/-- Ending a frame keeps to the protocol. -/
theorem endFrame_follows (tidy : r.Tidy) :
    (protocol τ ρ).KeepsOp Renderer.endFrame r r.position
      (fun _ r' p => r'.RestsAt p) fun _ r' p => r'.RestsAt p := by
  rw [keepsOp_endFrame]
  cases active : r.active with
  | none => exact ⟨rfl, tidy⟩
  | some image =>
    have open_ := Renderer.open_of_active tidy active
    rw [Renderer.position_of_active open_ active]
    simp [Position.Allows, Position.next, Renderer.RestsAt, Renderer.Tidy, open_,
      Renderer.position, Renderer.phase]

private theorem heldUpload_follows {held : HeldTexture τ} {owed : Bool} (pixels : PixelBuffer) :
    (protocol τ ρ).KeepsOp (HeldTexture.upload pixels) held ⟨.resting, held.current, owed⟩
      (fun _ held' p => p = ⟨.resting, held'.current, owed⟩)
      fun _ held' p => p = ⟨.resting, held'.current, owed⟩ := by
  rw [keepsOp_heldUpload]
  cases held.current with
  | none => simp [Position.Allows, Position.next]
  | some current =>
    obtain ⟨texture, size⟩ := current
    by_cases same : size = pixels.extent
    · simp [same, Position.Allows, Position.next]
    · simp [same, Position.Allows, Position.next]

private theorem upload_follows (tidy : r.Tidy) (pixels : PixelBuffer) :
    (protocol τ ρ).KeepsOp (Renderer.upload pixels) r r.position
      (fun _ r' p => r'.RestsAt p) fun _ r' p => r'.RestsAt p := by
  rw [keepsOp_upload]
  by_cases closed : r.closed = true
  · simpa [closed, Renderer.RestsAt] using tidy
  by_cases active : r.active.isSome = true
  · simpa [closed, active, Renderer.RestsAt] using tidy
  have idle : r.Idle := ⟨by simpa using closed, by simpa using active⟩
  rw [if_neg closed, if_neg active, Renderer.position_of_idle idle]
  apply (heldUpload_follows pixels).mono
  · rintro _ texture p rfl
    have idle : Renderer.Idle { r with texture } := idle
    exact (Renderer.restsAt_of_idle idle).mpr (Renderer.position_of_idle idle).symm
  · rintro _ texture p rfl
    have idle : Renderer.Idle { r with texture } := idle
    exact (Renderer.restsAt_of_idle idle).mpr (Renderer.position_of_idle idle).symm

/-- Uploading a paint keeps to the protocol. -/
theorem uploadPaint_follows (tidy : r.Tidy) (frame : PaintFrame) :
    (protocol τ ρ).KeepsOp (Renderer.uploadPaint frame) r r.position
      (fun _ r' p => r'.RestsAt p) fun _ r' p => r'.RestsAt p := by
  rw [Renderer.uploadPaint, keepsOp_bind, keepsOp_ofResult]
  cases frame.pixels with
  | ok pixels => exact upload_follows tidy pixels
  | error e => exact ⟨rfl, tidy⟩

/-- Asking for the binding keeps to the protocol. -/
theorem binding_follows (tidy : r.Tidy) :
    (protocol τ ρ).Keeps (Renderer.binding? r) r.position fun out p => out.2.RestsAt p := by
  rw [keeps_renderer_binding]
  cases held : r.texture.current with
  | none => exact ⟨rfl, tidy⟩
  | some current =>
    obtain ⟨texture, size⟩ := current
    have phase : r.phase = .resting ∨ ∃ image, r.phase = .recording image := by
      cases closed : r.closed with
      | true => simp [(tidy closed).1] at held
      | false => cases active : r.active <;> simp [Renderer.phase, closed, active]
    exact ⟨⟨phase, size, held⟩, fun binding p next => ⟨next, tidy⟩⟩

private theorem takeDown_follows (r : Renderer τ) {phase : Phase}
    (free : phase = .resting ∨ phase = .leaving) :
    (protocol τ ρ).Keeps (HeldTexture.clear r.texture) ⟨phase, r.texture.current, r.rebuildOwed⟩
      fun _ p => (protocol τ ρ).Keeps Graphics.tearDown p fun _ q =>
        Renderer.ClosedAt { r with closed := true, active := none, texture := ⟨none⟩ } q := by
  rw [keeps_clear]
  cases r.texture.current with
  | none =>
    simp [Position.Allows, Position.next, Renderer.ClosedAt, Renderer.RestsAt, Renderer.Tidy,
      Renderer.position, Renderer.phase, free]
  | some current =>
    obtain ⟨texture, size⟩ := current
    simp [Position.Allows, Position.next, Renderer.ClosedAt, Renderer.RestsAt, Renderer.Tidy,
      Renderer.position, Renderer.phase, free]

/-- After a shutdown the renderer is closed, also when the device did not go idle. -/
theorem shutdown_follows (tidy : r.Tidy) :
    (protocol τ ρ).KeepsOp Renderer.shutdown r r.position
      (fun _ r' p => r'.ClosedAt p) fun _ r' p => r'.ClosedAt p := by
  rw [keepsOp_shutdown]
  by_cases closed : r.closed = true
  · rw [if_pos closed]
    exact ⟨⟨rfl, tidy⟩, closed⟩
  rw [if_neg closed]
  simp only [keepsTask_waitIdle, protocol_permits, protocol_step, forall_eq]
  cases active : r.active with
  | none =>
    rw [Renderer.position_of_idle ⟨by simpa using closed, active⟩]
    exact ⟨.inl rfl, takeDown_follows r (.inl rfl), fun _ => takeDown_follows r (.inl rfl)⟩
  | some image =>
    rw [Renderer.position_of_active (by simpa using closed) active]
    exact ⟨.inr ⟨image, rfl⟩, takeDown_follows r (.inr rfl), fun _ => takeDown_follows r (.inr rfl)⟩

/-- A renderer that is closed has its stack torn down. -/
theorem close_follows (tidy : r.Tidy) :
    (protocol τ ρ).Keeps (Renderer.close r) r.position fun _ p => p.phase = .gone := by
  have gone (r' : Renderer τ) (p : Position τ) (after : r'.ClosedAt p) :
      p.phase = .gone := by
    obtain ⟨⟨rfl, -⟩, closed⟩ := after
    rw [Renderer.position_of_closed closed]
  rw [keeps_close]
  exact (shutdown_follows tidy).mono (fun _ => gone) fun _ => gone

/-- An operation whose result nobody looks at may end either way. -/
theorem keeps_ignoring {γ α : Type} {C : Contract (Graphics τ ρ) γ} {s : γ}
    {op : Renderer.Task τ ρ α} {post : Unit × Renderer τ → γ → Prop} :
    C.Keeps (Renderer.ignoring op r) s post ↔
      C.KeepsOp op r s (fun _ r' => post ((), r')) fun _ r' => post ((), r') := by
  rw [Renderer.ignoring, keeps_bind, keeps_run]
  rfl

/-- Whatever one request leads to, the calls follow the protocol. -/
theorem perform_follows (tidy : r.Tidy) (request : Renderer.Request) :
    (protocol τ ρ).Keeps (Renderer.perform request r) r.position fun out p => out.2.RestsAt p := by
  cases request with
  | requestSize extent =>
    rw [Renderer.perform, keeps_requestSize]
    exact ⟨trivial, fun _ p next => ⟨next, tidy⟩⟩
  | beginFrame => exact keeps_ignoring.mpr (beginFrame_follows tidy)
  | endFrame => exact keeps_ignoring.mpr (endFrame_follows tidy)
  | upload pixels => exact keeps_ignoring.mpr (upload_follows tidy pixels)
  | uploadPaint frame => exact keeps_ignoring.mpr (uploadPaint_follows tidy frame)
  | setClearColor color => exact ⟨rfl, tidy⟩
  | binding =>
    rw [Renderer.perform, keeps_bind]
    exact binding_follows tidy
  | shutdown =>
    have follows := shutdown_follows (ρ := ρ) tidy
    exact keeps_ignoring.mpr (follows.mono (fun _ _ _ h => h.1) fun _ _ _ h => h.1)

/-- Whatever requests lead to, the calls follow the protocol. -/
theorem serve_follows (tidy : r.Tidy) (requests : List Renderer.Request) :
    (protocol τ ρ).Keeps (Renderer.serve requests r) r.position
      fun out p => out.2.RestsAt p := by
  -- Between two requests the renderer rests, so that the next one starts where the last one ended.
  induction requests generalizing r with
  | nil => exact ⟨rfl, tidy⟩
  | cons request later ih =>
    rw [Renderer.serve, keeps_bind]
    apply (perform_follows tidy request).mono
    rintro ⟨_, r'⟩ p ⟨rfl, tidy'⟩
    exact ih tidy'

end Contract

end PaintPresenter
