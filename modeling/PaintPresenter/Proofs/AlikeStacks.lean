import PaintPresenter.Proofs.Protocol

/-!
# Renderers on two stacks

A renderer neither looks into textures and recordings nor makes any of its own. On two stacks that
give the same replies apart from these, two renderers that differ in their textures only make the
same calls and report the same.
-/

namespace PaintPresenter

variable {τ ρ τ' ρ' : Type}

/-! ## Calls and replies -/

/-- What a reply says apart from textures, recordings and handles. -/
inductive Echo
  | nothing
  | extent (extent : Extent)
  | done (result : Except GraphicsError Unit)
  | acquired (result : Except GraphicsError AcquiredImage)
  | presented (result : Except GraphicsError PresentOutcome)
  | bound (layout : Vulkan.ImageLayout) (extent : Extent)

namespace GraphicsCall

/-- A call without the textures that it names. -/
def shadow : GraphicsCall τ → GraphicsCall Unit
  | extent => extent
  | waitForPrevious => waitForPrevious
  | acquire => acquire
  | beginPass image clear => beginPass image clear
  | endPass => endPass
  | present image => present image
  | rebuild size => rebuild size
  | createTexture pixels => createTexture pixels
  | updateTexture _ pixels => updateTexture () pixels
  | releaseTexture _ => releaseTexture ()
  | binding _ => binding ()
  | waitIdle => waitIdle
  | tearDown => tearDown

/-- What a reply says whatever the stack: not its textures, recordings and views, which are the
stack's own. -/
def echo : (call : GraphicsCall τ) → call.Reply ρ → Echo
  | extent, size => .extent size
  | waitForPrevious, result | endPass, result | rebuild _, result | updateTexture _ _, result
  | waitIdle, result => .done result
  | acquire, result => .acquired result
  | present _, result => .presented result
  | beginPass _ _, result | createTexture _, result => .done (result.map fun _ => ())
  | binding _, b => .bound b.layout b.extent
  | releaseTexture _, _ | tearDown, _ => .nothing

end GraphicsCall

/-! ## Programs -/

section Programs

variable {α β α' β' ε σ σ' π π' : Type}

/-- Two programs make the same calls, and after replies that say the same they end alike, neither of
them at a fault. -/
inductive Program.Alike (R : α → β → Prop) :
    Program (Graphics τ ρ) α → Program (Graphics τ' ρ') β → Prop
  | done {a : α} {b : β} (alike : R a b) : Alike R (.done a) (.done b)
  | note (r : LogRecord) {p : Program (Graphics τ ρ) α} {q : Program (Graphics τ' ρ') β}
      (later : Alike R p q) : Alike R (.note r p) (.note r q)
  | call {c : GraphicsCall τ} {d : GraphicsCall τ'} {k : c.Reply ρ → Program (Graphics τ ρ) α}
      {k' : d.Reply ρ' → Program (Graphics τ' ρ') β} (same : c.shadow = d.shadow)
      (later : ∀ x y, c.echo x = d.echo y → Alike R (k x) (k' y)) :
      Alike R (.call (I := Graphics τ ρ) c k) (.call (I := Graphics τ' ρ') d k')

namespace Program

variable {R : α → β → Prop} {R' : α' → β' → Prop} {p : Program (Graphics τ ρ) α}
  {q : Program (Graphics τ' ρ') β}

/-- Sequencing keeps programs alike. -/
theorem Alike.bind {f : α → Program (Graphics τ ρ) α'} {g : β → Program (Graphics τ' ρ') β'}
    (first : Alike R p q) (next : ∀ a b, R a b → Alike R' (f a) (g b)) :
    Alike R' (p >>= f) (q >>= g) := by
  induction first with
  | done alike => exact next _ _ alike
  | note r _ ih => exact .note r ih
  | call same _ ih => exact .call same ih

end Program

variable {R : α → β → Prop}

/-- Two results are the same error, or values that are related. -/
def Except.Alike (R : α → β → Prop) : Except ε α → Except ε β → Prop
  | .ok a, .ok b => R a b
  | .error e, .error e' => e = e'
  | _, _ => False

private theorem Except.Alike.map_eq {γ : Type} {f : α → γ} {g : β → γ} {result : Except ε α}
    {result' : Except ε β} (alike : Except.Alike R result result')
    (same : ∀ a b, R a b → f a = g b) : result.map f = result'.map g := by
  match result, result', alike with
  | .ok a, .ok b, alike => exact congrArg _ (same a b alike)
  | .error _, .error _, alike => exact congrArg _ alike

private theorem Except.Alike.eq {result result' : Except ε α}
    (alike : Except.Alike Eq result result') : result = result' := by
  match result, result', alike with
  | .ok _, .ok _, alike => exact congrArg _ alike
  | .error _, .error _, alike => exact congrArg _ alike

/-- From states that are related two operations lead to related results and states. -/
def Stateful.Alike (S : σ → σ' → Prop) (R : α → β → Prop)
    (op : Stateful σ (Graphics τ ρ) ε α) (op' : Stateful σ' (Graphics τ' ρ') ε β) : Prop :=
  ∀ x y, S x y →
    Program.Alike (fun out out' => Except.Alike R out.1 out'.1 ∧ S out.2 out'.2)
      (op.run x) (op'.run y)

namespace Stateful

variable {S : σ → σ' → Prop} {R' : α' → β' → Prop}
  {op : Stateful σ (Graphics τ ρ) ε α} {op' : Stateful σ' (Graphics τ' ρ') ε β}

private theorem alike_pure {a : α} {b : β} (alike : R a b) :
    Alike S R (pure a : Stateful σ (Graphics τ ρ) ε α)
      (pure b : Stateful σ' (Graphics τ' ρ') ε β) :=
  fun _ _ states => .done ⟨alike, states⟩

private theorem alike_throw (e : ε) :
    Alike S R (throw e : Stateful σ (Graphics τ ρ) ε α)
      (throw e : Stateful σ' (Graphics τ' ρ') ε β) :=
  fun _ _ states => .done ⟨rfl, states⟩

/-- Sequencing keeps operations alike. -/
theorem Alike.bind {f : α → Stateful σ (Graphics τ ρ) ε α'}
    {g : β → Stateful σ' (Graphics τ' ρ') ε β'} (first : Alike S R op op')
    (next : ∀ a b, R a b → Alike S R' (f a) (g b)) : Alike S R' (op >>= f) (op' >>= g) := by
  intro x y states
  refine (first x y states).bind ?_
  rintro ⟨a | a, x⟩ ⟨b | b, y⟩ ⟨alike, states⟩
  · exact .done ⟨alike, states⟩
  · exact alike.elim
  · exact alike.elim
  · exact next a b alike x y states

private theorem alike_get :
    Alike S S (get : Stateful σ (Graphics τ ρ) ε σ) (get : Stateful σ' (Graphics τ' ρ') ε σ') :=
  fun _ _ states => .done ⟨states, states⟩

private theorem alike_modify {f : σ → σ} {g : σ' → σ'} (kept : ∀ x y, S x y → S (f x) (g y)) :
    Alike S (fun _ _ => True) (modify f : Stateful σ (Graphics τ ρ) ε PUnit)
      (modify g : Stateful σ' (Graphics τ' ρ') ε PUnit) :=
  fun x y states => .done ⟨trivial, kept x y states⟩

private theorem alike_log (level : LogLevel) (text : String) :
    Alike S (fun _ _ => True) (.log level text : Stateful σ (Graphics τ ρ) ε Unit)
      (.log level text : Stateful σ' (Graphics τ' ρ') ε Unit) :=
  fun _ _ states => .note _ (.done ⟨trivial, states⟩)

private theorem alike_ofProgram {p : Program (Graphics τ ρ) α} {q : Program (Graphics τ' ρ') β}
    (alike : Program.Alike R p q) :
    Alike S R (.ofProgram p : Stateful σ (Graphics τ ρ) ε α)
      (.ofProgram q : Stateful σ' (Graphics τ' ρ') ε β) :=
  fun _ _ states => alike.bind fun _ _ alike => .done ⟨alike, states⟩

private theorem alike_ofTask {task : ExceptT ε (Program (Graphics τ ρ)) α}
    {task' : ExceptT ε (Program (Graphics τ' ρ')) β}
    (alike : Program.Alike (Except.Alike R) task.run task'.run) :
    Alike S R (.ofTask task : Stateful σ (Graphics τ ρ) ε α)
      (.ofTask task' : Stateful σ' (Graphics τ' ρ') ε β) :=
  fun _ _ states => alike.bind fun _ _ alike => .done ⟨alike, states⟩

private theorem alike_ofResult (result : Except ε α) :
    Alike S Eq (.ofResult result : Stateful σ (Graphics τ ρ) ε α)
      (.ofResult result : Stateful σ' (Graphics τ' ρ') ε α) := by
  intro x y states
  refine .done ⟨?_, states⟩
  cases result with
  | ok a => exact rfl
  | error e => exact rfl

private theorem Alike.attempt (alike : Alike S R op op') :
    Alike S (Except.Alike R) op.attempt op'.attempt :=
  fun x y states => (alike x y states).bind fun _ _ alike => .done alike

private theorem alike_ofAction {action : StateT σ (Program (Graphics τ ρ)) α}
    {action' : StateT σ' (Program (Graphics τ' ρ')) β}
    (alike : ∀ x y, S x y →
      Program.Alike (fun out out' => R out.1 out'.1 ∧ S out.2 out'.2) (action x) (action' y)) :
    Alike S R (.ofAction action : Stateful σ (Graphics τ ρ) ε α)
      (.ofAction action' : Stateful σ' (Graphics τ' ρ') ε β) :=
  fun x y states => (alike x y states).bind fun _ _ alike => .done alike

private theorem Alike.onPart {S' : π → π' → Prop} {op : Stateful π (Graphics τ ρ) ε α}
    {op' : Stateful π' (Graphics τ' ρ') ε β} (alike : Alike S' R op op') {read : σ → π}
    {write : π → σ → σ} {read' : σ' → π'} {write' : π' → σ' → σ'}
    (reads : ∀ x y, S x y → S' (read x) (read' y))
    (writes : ∀ x y u v, S x y → S' u v → S (write u x) (write' v y)) :
    Alike S R (op.onPart read write) (op'.onPart read' write') := by
  intro x y states
  refine (alike _ _ (reads x y states)).bind fun out out' parts => ?_
  exact .done ⟨parts.1, writes _ _ _ _ states parts.2⟩

end Stateful

end Programs

/-! ## Calls of a renderer -/

section Calls

open Program

private theorem alike_extent :
    Alike Eq (Graphics.extent : Program (Graphics τ ρ) Extent)
      (Graphics.extent : Program (Graphics τ' ρ') Extent) :=
  .call rfl fun _ _ same => .done (Echo.extent.inj same)

private theorem alike_results {α : Type} {c : GraphicsCall τ} {d : GraphicsCall τ'}
    {result : c.Reply ρ → Except GraphicsError α} {result' : d.Reply ρ' → Except GraphicsError α}
    (same : c.shadow = d.shadow) (tells : ∀ x y, c.echo x = d.echo y → result x = result' y) :
    Alike (Except.Alike Eq) (.call (I := Graphics τ ρ) c fun x => .done (result x))
      (.call (I := Graphics τ' ρ') d fun y => .done (result' y)) := by
  refine .call same fun x y echo => .done ?_
  rw [tells x y echo]
  cases result' y with
  | ok a => exact rfl
  | error e => exact rfl

private theorem alike_handles {α β : Type} {c : GraphicsCall τ} {d : GraphicsCall τ'}
    {result : c.Reply ρ → Except GraphicsError α} {result' : d.Reply ρ' → Except GraphicsError β}
    (same : c.shadow = d.shadow)
    (tells : ∀ x y, c.echo x = d.echo y →
      (result x).map (fun _ => ()) = (result' y).map fun _ => ()) :
    Alike (Except.Alike fun _ _ => True) (.call (I := Graphics τ ρ) c fun x => .done (result x))
      (.call (I := Graphics τ' ρ') d fun y => .done (result' y)) := by
  refine .call same fun x y echo => .done ?_
  have tells := tells x y echo
  cases first : result x with
  | ok a =>
    cases second : result' y with
    | ok b => trivial
    | error e => simp [first, second, Except.map] at tells
  | error e =>
    cases second : result' y with
    | ok b => simp [first, second, Except.map] at tells
    | error e' =>
      change e = e'
      simpa [first, second, Except.map] using tells

private theorem alike_waitForPrevious :
    Alike (Except.Alike Eq) (Graphics.waitForPrevious : Graphics.Task τ ρ Unit).run
      (Graphics.waitForPrevious : Graphics.Task τ' ρ' Unit).run :=
  alike_results rfl fun _ _ => Echo.done.inj

private theorem alike_acquire :
    Alike (Except.Alike Eq) (Graphics.acquire : Graphics.Task τ ρ AcquiredImage).run
      (Graphics.acquire : Graphics.Task τ' ρ' AcquiredImage).run :=
  alike_results rfl fun _ _ => Echo.acquired.inj

private theorem alike_beginPass (image : UInt32) (clear : Color) :
    Alike (Except.Alike fun _ _ => True) (Graphics.beginPass image clear : Graphics.Task τ ρ ρ).run
      (Graphics.beginPass image clear : Graphics.Task τ' ρ' ρ').run :=
  alike_handles rfl fun _ _ => Echo.done.inj

private theorem alike_endPass :
    Alike (Except.Alike Eq) (Graphics.endPass : Graphics.Task τ ρ Unit).run
      (Graphics.endPass : Graphics.Task τ' ρ' Unit).run :=
  alike_results rfl fun _ _ => Echo.done.inj

private theorem alike_present (image : UInt32) :
    Alike (Except.Alike Eq) (Graphics.present image : Graphics.Task τ ρ PresentOutcome).run
      (Graphics.present image : Graphics.Task τ' ρ' PresentOutcome).run :=
  alike_results rfl fun _ _ => Echo.presented.inj

private theorem alike_rebuild (extent : Extent) :
    Alike (Except.Alike Eq) (Graphics.rebuild extent : Graphics.Task τ ρ Unit).run
      (Graphics.rebuild extent : Graphics.Task τ' ρ' Unit).run :=
  alike_results rfl fun _ _ => Echo.done.inj

private theorem alike_createTexture (pixels : PixelBuffer) :
    Alike (Except.Alike fun _ _ => True) (Graphics.createTexture pixels : Graphics.Task τ ρ τ).run
      (Graphics.createTexture pixels : Graphics.Task τ' ρ' τ').run :=
  alike_handles rfl fun _ _ => Echo.done.inj

private theorem alike_updateTexture (texture : τ) (texture' : τ') (pixels : PixelBuffer) :
    Alike (Except.Alike Eq) (Graphics.updateTexture texture pixels : Graphics.Task τ ρ Unit).run
      (Graphics.updateTexture texture' pixels : Graphics.Task τ' ρ' Unit).run :=
  alike_results rfl fun _ _ => Echo.done.inj

private theorem alike_waitIdle :
    Alike (Except.Alike Eq) (Graphics.waitIdle : Graphics.Task τ ρ Unit).run
      (Graphics.waitIdle : Graphics.Task τ' ρ' Unit).run :=
  alike_results rfl fun _ _ => Echo.done.inj

private theorem alike_releaseTexture (texture : τ) (texture' : τ') :
    Alike (fun _ _ => True) (Graphics.releaseTexture texture : Program (Graphics τ ρ) Unit)
      (Graphics.releaseTexture texture' : Program (Graphics τ' ρ') Unit) :=
  .call rfl fun _ _ _ => .done trivial

private theorem alike_tearDown :
    Alike (fun _ _ => True) (Graphics.tearDown : Program (Graphics τ ρ) Unit)
      (Graphics.tearDown : Program (Graphics τ' ρ') Unit) :=
  .call rfl fun _ _ _ => .done trivial

/-- Bindings of the same size and layout. -/
def TextureBinding.Alike (b b' : TextureBinding) : Prop :=
  b.layout = b'.layout ∧ b.extent = b'.extent

private theorem alike_binding (texture : τ) (texture' : τ') :
    Alike TextureBinding.Alike (Graphics.binding texture : Program (Graphics τ ρ) TextureBinding)
      (Graphics.binding texture' : Program (Graphics τ' ρ') TextureBinding) :=
  .call rfl fun _ _ same => .done (Echo.bound.inj same)

end Calls

/-! ## Operations of a renderer -/

/-- Both hold a texture of the same size, or none. -/
def HeldTexture.Alike (held : HeldTexture τ) (held' : HeldTexture τ') : Prop :=
  held.current.map Prod.snd = held'.current.map Prod.snd

/-- Two renderers differ in their textures only. -/
structure Renderer.Alike (r : Renderer τ) (r' : Renderer τ') : Prop where
  texture : r.texture.Alike r'.texture
  clearColor : r.clearColor = r'.clearColor
  pendingSize : r.pendingSize = r'.pendingSize
  rebuildOwed : r.rebuildOwed = r'.rebuildOwed
  active : r.active = r'.active
  presented : r.presented = r'.presented
  closed : r.closed = r'.closed

namespace HeldTexture

variable {held : HeldTexture τ} {held' : HeldTexture τ'}

/-- Either both slots are empty or both hold a texture of one size. -/
theorem Alike.cases (alike : held.Alike held') :
    held.current = none ∧ held'.current = none ∨
      ∃ texture texture' size, held.current = some (texture, size) ∧
        held'.current = some (texture', size) := by
  obtain ⟨_ | ⟨texture, size⟩⟩ := held
  · obtain ⟨_ | ⟨texture', size'⟩⟩ := held'
    · exact .inl ⟨rfl, rfl⟩
    · exact absurd alike (by simp [HeldTexture.Alike])
  · obtain ⟨_ | ⟨texture', size'⟩⟩ := held'
    · exact absurd alike (by simp [HeldTexture.Alike])
    · obtain rfl : size = size' := by simpa [HeldTexture.Alike] using alike
      exact .inr ⟨texture, texture', size, rfl, rfl⟩

open Stateful

private theorem alike_place (pixels : PixelBuffer) :
    Stateful.Alike HeldTexture.Alike (fun _ _ => True) (place pixels : Task τ ρ Unit)
      (place pixels : Task τ' ρ' Unit) :=
  Alike.bind (alike_ofTask (alike_createTexture pixels)) fun _ _ _ _ _ _ => .done ⟨trivial, rfl⟩

/-- An upload goes alike for slots that are alike. -/
theorem alike_upload (pixels : PixelBuffer) :
    Stateful.Alike HeldTexture.Alike Eq (upload pixels : Task τ ρ UploadOutcome)
      (upload pixels : Task τ' ρ' UploadOutcome) := by
  refine Alike.bind alike_get fun held held' alike => ?_
  obtain ⟨first, second⟩ | ⟨texture, texture', size, first, second⟩ := alike.cases
  · rw [first, second]
    exact Alike.bind (alike_place pixels) fun _ _ _ => alike_pure rfl
  · simp only [first, second]
    by_cases same : size = pixels.extent
    · rw [if_pos same, if_pos same]
      exact Alike.bind (alike_ofTask (alike_updateTexture texture texture' pixels))
        fun _ _ _ => alike_pure rfl
    · rw [if_neg same, if_neg same]
      refine Alike.bind (alike_log _ _) fun _ _ _ =>
        Alike.bind (alike_ofTask alike_waitIdle) fun _ _ _ => ?_
      refine Alike.bind (R := fun _ _ => True) (fun _ _ _ => .done ⟨trivial, rfl⟩) fun _ _ _ => ?_
      exact Alike.bind (alike_ofProgram (alike_releaseTexture texture texture')) fun _ _ _ =>
        Alike.bind (alike_place pixels) fun _ _ _ => alike_pure rfl

/-- So does clearing the slot. -/
theorem alike_clear (alike : held.Alike held') :
    Program.Alike (fun out out' => True ∧ out.2.Alike out'.2)
      (clear held : Program (Graphics τ ρ) (Unit × HeldTexture τ))
      (clear held' : Program (Graphics τ' ρ') (Unit × HeldTexture τ')) := by
  unfold clear
  obtain ⟨first, second⟩ | ⟨texture, texture', size, first, second⟩ := alike.cases
  · rw [first, second]
    exact .done ⟨trivial, alike⟩
  · rw [first, second]
    exact (alike_releaseTexture texture texture').bind fun _ _ _ => .done ⟨trivial, rfl⟩

end HeldTexture

namespace Renderer

open Stateful

variable {r : Renderer τ} {r' : Renderer τ'}

/-- New renderers with one clear color are alike. -/
theorem alike_new (clearColor : Color) :
    Alike ({ clearColor } : Renderer τ) ({ clearColor } : Renderer τ') :=
  ⟨rfl, rfl, rfl, rfl, rfl, rfl, rfl⟩

private theorem alike_requestSize (alike : r.Alike r') (extent : Extent) :
    Program.Alike (fun out out' => out.1 = out'.1 ∧ out.2.Alike out'.2)
      (requestSize extent r : Program (Graphics τ ρ) (Unit × Renderer τ))
      (requestSize extent r' : Program (Graphics τ' ρ') (Unit × Renderer τ')) := by
  refine alike_extent.bind ?_
  rintro current _ rfl
  exact .done ⟨rfl, { alike with pendingSize := rfl }⟩

private theorem alike_settleRebuild :
    Stateful.Alike Alike (fun _ _ => True) (settleRebuild : Task τ ρ Unit)
      (settleRebuild : Task τ' ρ' Unit) := by
  refine Alike.bind alike_get fun r r' alike => ?_
  rw [alike.pendingSize, alike.rebuildOwed]
  cases r'.pendingSize with
  | some extent =>
    refine Alike.bind (alike_ofTask (alike_rebuild extent)) fun _ _ _ => alike_modify ?_
    exact fun _ _ alike => { alike with pendingSize := rfl, rebuildOwed := rfl }
  | none =>
    by_cases owed : r'.rebuildOwed = true
    · rw [if_pos owed, if_pos owed]
      refine Alike.bind (alike_ofProgram alike_extent) ?_
      rintro extent _ rfl
      refine Alike.bind (alike_ofTask (alike_rebuild extent)) fun _ _ _ => alike_modify ?_
      exact fun _ _ alike => { alike with rebuildOwed := rfl }
    · rw [if_neg owed, if_neg owed]
      exact alike_pure trivial

end Renderer

/-- What an owner sees of the beginning of a frame: the image and its size, if there is one. -/
def FrameStatus.seen : FrameStatus ρ → Option (UInt32 × Extent)
  | .ready frame => some (frame.image, frame.extent)
  | .skipped => none

namespace Renderer

open Stateful

variable {r : Renderer τ} {r' : Renderer τ'}

/-- Frames of the same image and size. -/
def SeenAlike (status : FrameStatus ρ) (status' : FrameStatus ρ') : Prop :=
  status.seen = status'.seen

private theorem alike_record (image : AcquiredImage) :
    Stateful.Alike Alike SeenAlike (record image : Task τ ρ (FrameStatus ρ))
      (record image : Task τ' ρ' (FrameStatus ρ')) := by
  have rest : Stateful.Alike Alike SeenAlike
      (do
        let recording ← .ofTask (Graphics.beginPass image.index (← get).clearColor)
        modify fun r => { r with active := some image.index }
        let extent ← .ofProgram Graphics.extent
        return .ready ⟨recording, image.index, extent⟩ : Task τ ρ (FrameStatus ρ))
      (do
        let recording ← .ofTask (Graphics.beginPass image.index (← get).clearColor)
        modify fun r => { r with active := some image.index }
        let extent ← .ofProgram Graphics.extent
        return .ready ⟨recording, image.index, extent⟩ : Task τ' ρ' (FrameStatus ρ')) := by
    refine Alike.bind alike_get fun r r' alike => ?_
    rw [alike.clearColor]
    refine Alike.bind (alike_ofTask (alike_beginPass _ _)) fun _ _ _ => ?_
    refine Alike.bind (alike_modify ?_) fun _ _ _ => ?_
    · exact fun _ _ alike => { alike with active := rfl }
    · refine Alike.bind (alike_ofProgram alike_extent) ?_
      rintro extent _ rfl
      exact alike_pure rfl
  unfold record
  cases image.suboptimal with
  | true =>
    refine Alike.bind (alike_log _ _) fun _ _ _ => Alike.bind (alike_modify ?_) fun _ _ _ => rest
    exact fun _ _ alike => { alike with rebuildOwed := rfl }
  | false => exact rest

private theorem alike_beginFrame :
    Stateful.Alike Alike SeenAlike (beginFrame : Task τ ρ (FrameStatus ρ))
      (beginFrame : Task τ' ρ' (FrameStatus ρ')) := by
  refine Alike.bind alike_get fun r r' alike => ?_
  have minimized : r.minimized = r'.minimized := congrArg (Option.any _) alike.pendingSize
  rw [alike.closed, alike.active, minimized]
  by_cases closed : r'.closed = true
  · rw [if_pos closed, if_pos closed]
    exact fun _ _ states => .done ⟨rfl, states⟩
  rw [if_neg closed, if_neg closed]
  by_cases active : r'.active.isSome = true
  · rw [if_pos active, if_pos active]
    exact fun _ _ states => .done ⟨rfl, states⟩
  rw [if_neg active, if_neg active]
  by_cases minimized : r'.minimized = true
  · rw [if_pos minimized, if_pos minimized]
    exact alike_pure rfl
  rw [if_neg minimized, if_neg minimized]
  refine Alike.bind alike_settleRebuild fun _ _ _ =>
    Alike.bind (alike_ofTask alike_waitForPrevious) fun _ _ _ =>
      Alike.bind (alike_ofTask alike_acquire).attempt ?_
  rintro (e | image) (e' | image') alike
  · obtain rfl : e = e' := alike
    cases e with
    | outOfDate =>
      refine Alike.bind (alike_log _ _) fun _ _ _ => Alike.bind (alike_ofProgram alike_extent) ?_
      rintro extent _ rfl
      exact Alike.bind (alike_ofTask (alike_rebuild extent)) fun _ _ _ => alike_pure rfl
    | _ => exact alike_throw _
  · exact alike.elim
  · exact alike.elim
  · obtain rfl : image = image' := alike
    exact alike_record image

private theorem alike_endFrame :
    Stateful.Alike Alike Eq (endFrame : Task τ ρ Unit) (endFrame : Task τ' ρ' Unit) := by
  refine Alike.bind alike_get fun r r' alike => ?_
  rw [alike.active]
  cases r'.active with
  | none => exact alike_throw _
  | some image =>
    refine Alike.bind (alike_modify ?_) fun _ _ _ => ?_
    · exact fun _ _ alike => { alike with active := rfl }
    refine Alike.bind (alike_ofTask alike_endPass) fun _ _ _ =>
      Alike.bind (alike_ofTask (alike_present image)) ?_
    rintro outcome _ rfl
    cases outcome with
    | presented =>
      exact fun _ _ alike =>
        .done ⟨rfl, { alike with presented := congrArg (· + 1) alike.presented }⟩
    | suboptimal =>
      exact fun _ _ alike => .done
        ⟨rfl, { alike with presented := congrArg (· + 1) alike.presented, rebuildOwed := rfl }⟩
    | outOfDate =>
      refine Alike.bind (alike_log _ _) fun _ _ _ => ?_
      exact fun _ _ alike => .done ⟨rfl, { alike with rebuildOwed := rfl }⟩

private theorem Alike.onTexture {α β : Type} {R : α → β → Prop}
    {task : HeldTexture.Task τ ρ α} {task' : HeldTexture.Task τ' ρ' β}
    (alike : Stateful.Alike HeldTexture.Alike R task task') :
    Stateful.Alike Alike R (onTexture task) (onTexture task') :=
  alike.onPart (fun _ _ => Alike.texture) fun _ _ _ _ alike texture => { alike with texture }

private theorem alike_upload (pixels : PixelBuffer) :
    Stateful.Alike Alike Eq (upload pixels : Task τ ρ UploadOutcome)
      (upload pixels : Task τ' ρ' UploadOutcome) := by
  refine Alike.bind alike_get fun r r' alike => ?_
  rw [alike.closed, alike.active]
  by_cases closed : r'.closed = true
  · rw [if_pos closed, if_pos closed]
    exact fun _ _ states => .done ⟨rfl, states⟩
  rw [if_neg closed, if_neg closed]
  by_cases active : r'.active.isSome = true
  · rw [if_pos active, if_pos active]
    exact fun _ _ states => .done ⟨rfl, states⟩
  rw [if_neg active, if_neg active]
  exact Alike.onTexture (HeldTexture.alike_upload pixels)

private theorem alike_uploadPaint (frame : PaintFrame) :
    Stateful.Alike Alike Eq (uploadPaint frame : Task τ ρ UploadOutcome)
      (uploadPaint frame : Task τ' ρ' UploadOutcome) := by
  refine Alike.bind (alike_ofResult _) ?_
  rintro pixels _ rfl
  exact alike_upload pixels

/-- Bindings of the same size and layout, or none. -/
def BoundAlike : Option TextureBinding → Option TextureBinding → Prop
  | some b, some b' => b.Alike b'
  | none, none => True
  | _, _ => False

private theorem alike_binding? (alike : r.Alike r') :
    Program.Alike (fun out out' => BoundAlike out.1 out'.1 ∧ out.2.Alike out'.2)
      (binding? r : Program (Graphics τ ρ) (Option TextureBinding × Renderer τ))
      (binding? r' : Program (Graphics τ' ρ') (Option TextureBinding × Renderer τ')) := by
  unfold binding? HeldTexture.texture?
  obtain ⟨first, second⟩ | ⟨texture, texture', size, first, second⟩ := alike.texture.cases
  · rw [first, second]
    exact .done ⟨trivial, alike⟩
  · rw [first, second]
    exact (alike_binding texture texture').bind fun _ _ bound => .done ⟨bound, alike⟩

private theorem alike_shutdown :
    Stateful.Alike Alike Eq (shutdown : Task τ ρ Unit) (shutdown : Task τ' ρ' Unit) := by
  refine Alike.bind alike_get fun r r' alike => ?_
  rw [alike.closed]
  by_cases closed : r'.closed = true
  · rw [if_pos closed, if_pos closed]
    exact alike_pure rfl
  rw [if_neg closed, if_neg closed]
  refine Alike.bind (alike_modify ?_) fun _ _ _ =>
    Alike.bind (alike_ofTask alike_waitIdle).attempt fun idle idle' same => ?_
  · exact fun _ _ alike => { alike with closed := rfl, active := rfl }
  obtain rfl := same.eq
  have rest : Stateful.Alike Alike Eq
      (do
        onTexture (.ofAction HeldTexture.clear)
        .ofProgram Graphics.tearDown
        let frames := (← get).presented
        Stateful.log .info s!"renderer shut down after {frames} frames"
        .ofResult idle : Task τ ρ Unit)
      (do
        onTexture (.ofAction HeldTexture.clear)
        .ofProgram Graphics.tearDown
        let frames := (← get).presented
        Stateful.log .info s!"renderer shut down after {frames} frames"
        .ofResult idle : Task τ' ρ' Unit) := by
    have cleared : Stateful.Alike HeldTexture.Alike (fun _ _ => True)
        (.ofAction HeldTexture.clear : HeldTexture.Task τ ρ Unit)
        (.ofAction HeldTexture.clear : HeldTexture.Task τ' ρ' Unit) :=
      alike_ofAction fun _ _ => HeldTexture.alike_clear
    refine Alike.bind (Alike.onTexture cleared) fun _ _ _ =>
      Alike.bind (alike_ofProgram alike_tearDown) fun _ _ _ =>
        Alike.bind alike_get fun r r' alike => ?_
    rw [alike.presented]
    exact Alike.bind (alike_log _ _) fun _ _ _ => alike_ofResult idle
  cases idle with
  | ok _ => exact rest
  | error e => exact Alike.bind (alike_log _ _) fun _ _ _ => rest

/-! ## Reports -/

/-- What an owner learns from what was asked for. -/
inductive Report
  | nothing
  | began (result : Except GraphicsError (Option (UInt32 × Extent)))
  | ended (result : Except GraphicsError Unit)
  | uploaded (result : Except GraphicsError UploadOutcome)
  | bound (binding : Option (Vulkan.ImageLayout × Extent))
  | shutDown (result : Except GraphicsError Unit)

/-- Runs an operation and tells its result. -/
def reporting {α : Type} (task : Task τ ρ α) (tell : Except GraphicsError α → Report) :
    Action τ ρ Report := fun r => do
  let (result, r) ← task.run r
  return (tell result, r)

/-- Does what one request asks for and reports what came of it. -/
def report : Request → Action τ ρ Report
  | .requestSize extent => fun r => do
    let ((), r) ← requestSize extent r
    return (.nothing, r)
  | .beginFrame => reporting beginFrame fun result => .began (result.map FrameStatus.seen)
  | .endFrame => reporting endFrame .ended
  | .upload pixels => reporting (upload pixels) .uploaded
  | .uploadPaint frame => reporting (uploadPaint frame) .uploaded
  | .setClearColor clearColor => fun r => return (.nothing, { r with clearColor })
  | .binding => fun r => do
    let (binding, r) ← binding? r
    return (.bound (binding.map fun b => (b.layout, b.extent)), r)
  | .shutdown => reporting shutdown .shutDown

private theorem ignoring_eq {α : Type} (task : Task τ ρ α) (tell : Except GraphicsError α → Report)
    (r : Renderer τ) :
    ignoring task r = (fun out => ((), out.2)) <$> reporting task tell r := by
  rw [reporting, map_bind]
  rfl

/-- To perform a request is to make nothing of its report. -/
theorem perform_eq (request : Request) (r : Renderer τ) :
    (perform request r : Program (Graphics τ ρ) _) =
      (fun out => ((), out.2)) <$> report request r := by
  cases request with
  | requestSize extent => rfl
  | setClearColor color => rfl
  | binding =>
    rw [perform, report, map_bind]
    rfl
  | beginFrame =>
    rw [perform, report]
    exact ignoring_eq ..
  | _ => exact ignoring_eq ..

private theorem alike_reporting {α β : Type} {R : α → β → Prop} {task : Task τ ρ α}
    {task' : Task τ' ρ' β} (alike : Stateful.Alike Alike R task task')
    {tell : Except GraphicsError α → Report} {tell' : Except GraphicsError β → Report}
    (tells : ∀ result result', Except.Alike R result result' → tell result = tell' result')
    (renderers : r.Alike r') :
    Program.Alike (fun out out' => out.1 = out'.1 ∧ out.2.Alike out'.2) (reporting task tell r)
      (reporting task' tell' r') :=
  (alike r r' renderers).bind fun _ _ ended => .done ⟨tells _ _ ended.1, ended.2⟩

/-- Whatever is asked of two renderers that differ in their textures only, they make the same calls
and report the same, as long as the replies differ in textures and recordings only. -/
theorem report_alike (renderers : r.Alike r') (request : Request) :
    Program.Alike (fun out out' => out.1 = out'.1 ∧ out.2.Alike out'.2)
      (report request r : Program (Graphics τ ρ) (Report × Renderer τ))
      (report request r' : Program (Graphics τ' ρ') (Report × Renderer τ')) := by
  cases request with
  | requestSize extent =>
    exact (alike_requestSize renderers extent).bind fun _ _ ended => .done ⟨rfl, ended.2⟩
  | beginFrame =>
    unfold report
    refine alike_reporting alike_beginFrame (fun result result' alike => ?_) renderers
    exact congrArg Report.began (alike.map_eq fun _ _ => id)
  | endFrame =>
    exact alike_reporting alike_endFrame (fun _ _ alike => congrArg _ alike.eq) renderers
  | upload pixels =>
    exact alike_reporting (alike_upload pixels) (fun _ _ alike => congrArg _ alike.eq) renderers
  | uploadPaint frame =>
    exact alike_reporting (alike_uploadPaint frame) (fun _ _ alike => congrArg _ alike.eq) renderers
  | setClearColor color => exact .done ⟨rfl, { renderers with clearColor := rfl }⟩
  | binding =>
    refine (alike_binding? renderers).bind ?_
    rintro ⟨found, _⟩ ⟨found', _⟩ ⟨bound, renderers⟩
    refine .done ⟨?_, renderers⟩
    match found, found', bound with
    | none, none, _ => rfl
    | some b, some b', ⟨layout, extent⟩ => simp [layout, extent]
  | shutdown =>
    exact alike_reporting alike_shutdown (fun _ _ alike => congrArg _ alike.eq) renderers

end Renderer

end PaintPresenter
