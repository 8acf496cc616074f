import PaintPresenter.Proofs.AlikeStacks
import PaintPresenter.Proofs.EvenStack
import PaintPresenter.Proofs.Minimized
import PaintPresenter.Proofs.RiggedStack

/-!
# A stack in memory that mirrors one on a driver

`Mirrors` relates a stack on an even driver to one in memory, each with a renderer at the same place
of its protocol: textures have the same sizes, the next image and what is scripted are the same, and
the fence in memory is signaled where the one on the driver can be waited for. Every call that the
protocol allows gets replies that say the same, and keeps the relation.
-/

namespace PaintPresenter

open Simulation

/-! ## The relation between two stacks -/

namespace Vulkan

open Contract

variable {table : MemoryTable} {frames : Handle .commandBuffer} {p : Position SampledImage}
  {p' : Position Nat} {stack : Stack} {s t : QueueState × DriverScript} {stage : Rehearsal}

/-- The textures that are held have the same size, which is theirs, or there is none. -/
def HeldMirrored (textures : List (Nat × StoredTexture)) :
    Option (SampledImage × Extent) → Option (Nat × Extent) → Prop
  | none, none => True
  | some (texture, size), some (id, size') => size' = size ∧ texture.extent = size ∧
    ∃ stored, textures.lookup id = some stored ∧ stored.extent = size
  | _, _ => False

/-- The error of an acquire. -/
def acquireError (result : ResultCode) : GraphicsError :=
  .ofResult "vkAcquireNextImageKHR" result

/-- The next image, errors and outcomes of a stage are those in the script of a driver. -/
structure Prompted (script : DriverScript) (turn : Nat) (errors : List GraphicsError)
    (outcomes : List PresentOutcome) : Prop where
  turn : turn = script.turn
  inTurn : script.turn < DriverScript.images
  errors : errors = script.failures.map acquireError
  outcomes : outcomes = script.outcomes

/-- The fence on the driver can be waited for where the one on the stage is signaled. -/
def FenceMirrored (signaled : Bool) (stack : Stack) (q : QueueState) : Phase → Prop
  | .resting | .late => signaled = true ∧ q.Waitable stack.gate.inFlight
  | .acquired image => signaled = false ∧ image.toNat < DriverScript.images
  | .waited | .recording _ | .recorded _ => signaled = false
  | .leaving | .gone => True

private theorem FenceMirrored.spared {signaled : Bool} {phase : Phase}
    (mirrored : FenceMirrored signaled stack s.1 phase) (spared : Spared s stack.gate.inFlight t) :
    FenceMirrored signaled stack t.1 phase := by
  cases phase with
  | resting | late => exact ⟨mirrored.1, spared.2 mirrored.2⟩
  | _ => exact mirrored

/-- A stage mirrors a stack on an even driver, each with a renderer where the protocol is. -/
structure Mirrors (table : MemoryTable) (frames : Handle .commandBuffer)
    (p : Position SampledImage) (p' : Position Nat) (stack : Stack)
    (s : QueueState × DriverScript) (stage : Rehearsal) : Prop where
  phase : p'.phase = p.phase
  held : HeldMirrored stage.textures p.held p'.held
  fits : StackFits frames p.phase stack s.1
  stocked : p.phase ≠ .gone → stack.Stocked table
  extent : stage.extent = stack.screen.extent
  pixels : stack.screen.extent.isEmpty = false
  prompted : Prompted s.2 stage.nextImage stage.acquireErrors stage.presentOutcomes
  fence : FenceMirrored stage.fenceSignaled stack s.1 p.phase

/-- The stage replies as the stack did and goes on to mirror it. -/
def Echoes (table : MemoryTable) (frames : Handle .commandBuffer) (p : Position SampledImage)
    (p' : Position Nat) (stage : Rehearsal) (call : GraphicsCall SampledImage)
    (call' : GraphicsCall Nat) (out : call.Reply Recording × Stack)
    (t : QueueState × DriverScript) : Prop :=
  ∃ reply after, stage.answer call' = (.ok reply, after) ∧ call.echo out.1 = call'.echo reply ∧
    Mirrors table frames (p.next call out.1) (p'.next call' reply) out.2 t after

/-- What frames keep of the work that is submitted they keep on an even driver. -/
theorem keeps_even {α : Type} {task : Program Driver α} {post : α → QueueState → Prop}
    (kept : (frameContract frames).Keeps task s.1 post) :
    (free (even table)).Keeps task s fun a t => post a t.1 := by
  refine (kept.transfer (D := free (even table)) (fun q s => q = s.1) ?_ rfl).mono ?_
  · rintro q s c rfl -
    exact ⟨trivial, fun reply t step => ⟨t.1, step.1.2.2, rfl⟩⟩
  · rintro a t ⟨_, rfl, holds⟩
    exact holds

private theorem even_fits (fits : StackFits frames p.phase stack s.1)
    (call : GraphicsCall SampledImage) (allowed : p.Allows call) :
    (free (even table)).Keeps (Stack.answer call stack) s fun out t =>
      StackFits frames (p.next call out.1).phase out.2 t.1 :=
  keeps_even (stackAnswer_fits fits allowed)

/-! ## Every call -/

section Calls

variable {held : Option (SampledImage × Extent)} {owed : Bool}

private theorem echoes_waitForPrevious
    (mirrors : Mirrors table frames ⟨.resting, held, owed⟩ p' stack s stage)
    (allowed : Position.Allows ⟨.resting, held, owed⟩ .waitForPrevious) :
    (free (even table)).Keeps (Stack.answer .waitForPrevious stack) s
      (Echoes table frames ⟨.resting, held, owed⟩ p' stage .waitForPrevious .waitForPrevious) := by
  refine (Keeps.and (even_fits mirrors.fits _ allowed) even_waitForPrevious).mono ?_
  rintro ⟨_ | _, after⟩ t ⟨fits, waited⟩
  · exact waited.elim
  obtain ⟨rfl, script⟩ := waited
  have signaled : stage.fenceSignaled = true := mirrors.fence.1
  refine ⟨.ok (), { stage with fenceSignaled := false }.write .waitFence, ?_, rfl, ?_⟩
  · simp [Rehearsal.answer, signaled]
  · exact { mirrors with
      phase := rfl
      fits
      stocked := fun _ => mirrors.stocked Phase.noConfusion
      prompted := by rw [script]; exact mirrors.prompted
      fence := rfl }

private theorem echoes_refused
    (mirrors : Mirrors table frames ⟨.waited, held, owed⟩ p' stack s stage) {result : ResultCode}
    {later : List ResultCode} {fresh : Handle .fence} {after : Stack}
    (failures : s.2.failures = result :: later)
    (replaced : after = { stack with gate := { stack.gate with inFlight := fresh } })
    (script : t.2 = { s.2 with failures := later }) (ready : t.1.Waitable fresh)
    (fits : StackFits frames (Position.next ⟨.waited, held, owed⟩
      (.acquire : GraphicsCall SampledImage) (ρ := Recording) (.error (acquireError result))).phase
      after t.1) :
    Echoes table frames ⟨.waited, held, owed⟩ p' stage .acquire .acquire
      (.error (acquireError result), after) t := by
  subst replaced
  have prompted := mirrors.prompted
  have stocked := mirrors.stocked Phase.noConfusion
  have errors : stage.acquireErrors = acquireError result :: later.map acquireError := by
    rw [prompted.errors, failures, List.map_cons]
  refine ⟨.error (acquireError result), { stage.write .acquire with
    acquireErrors := later.map acquireError, fenceSignaled := true }.write .rearmFence, ?_, rfl, ?_⟩
  · simp [Rehearsal.answer, Rehearsal.acquire, Rehearsal.write, errors]
  · exact { mirrors with
      phase := rfl
      fits
      stocked := fun _ => ⟨stocked.memory, stocked.framebuffers⟩
      prompted := by
        rw [script]
        exact ⟨prompted.turn, prompted.inTurn, rfl, prompted.outcomes⟩
      fence := by
        unfold Position.next
        dsimp only
        split
        · exact ⟨rfl, ready⟩
        · exact ⟨rfl, ready⟩ }

private theorem echoes_taken
    (mirrors : Mirrors table frames ⟨.waited, held, owed⟩ p' stack s stage)
    (failures : s.2.failures = [])
    (script : t.2 = { s.2 with turn := (s.2.turn + 1) % DriverScript.images })
    (fits : StackFits frames (.acquired (.ofNat s.2.turn)) stack t.1) :
    Echoes table frames ⟨.waited, held, owed⟩ p' stage .acquire .acquire
      (.ok ⟨.ofNat s.2.turn, false⟩, stack) t := by
  have prompted := mirrors.prompted
  have errors : stage.acquireErrors = [] := by rw [prompted.errors, failures, List.map_nil]
  refine ⟨.ok ⟨.ofNat stage.nextImage, false⟩, { stage.write .acquire with
    nextImage := (stage.nextImage + 1) % Rehearsal.imageCount }, ?_, ?_, ?_⟩
  · simp [Rehearsal.answer, Rehearsal.acquire, Rehearsal.write, errors]
  · exact congrArg (fun turn => Echo.acquired (.ok ⟨.ofNat turn, false⟩)) prompted.turn.symm
  · have small : s.2.turn < UInt32.size := Nat.lt_trans prompted.inTurn (by decide)
    exact { mirrors with
      phase := by simp [Position.next, prompted.turn]
      fits
      stocked := fun _ => mirrors.stocked Phase.noConfusion
      prompted := by
        rw [script]
        exact ⟨congrArg (fun turn => (turn + 1) % DriverScript.images) prompted.turn,
          Nat.mod_lt _ (by decide), prompted.errors, prompted.outcomes⟩
      fence := by
        refine ⟨mirrors.fence, ?_⟩
        rw [UInt32.toNat_ofNat_of_lt' small]
        exact prompted.inTurn }

private theorem echoes_acquire
    (mirrors : Mirrors table frames ⟨.waited, held, owed⟩ p' stack s stage)
    (allowed : Position.Allows ⟨.waited, held, owed⟩ .acquire) :
    (free (even table)).Keeps (Stack.answer .acquire stack) s
      (Echoes table frames ⟨.waited, held, owed⟩ p' stage .acquire .acquire) := by
  have waited : Waited stack.gate frames s.1 := mirrors.fits.2
  refine (Keeps.and (even_fits mirrors.fits _ allowed) (even_acquire waited.fenceLive)).mono ?_
  rintro ⟨_ | image, after⟩ t ⟨fits, acquired⟩
  · obtain ⟨result, later, fresh, failures, rfl, replaced, script, ready⟩ := acquired
    exact echoes_refused mirrors failures replaced script ready fits
  · obtain ⟨failures, rfl, rfl, script⟩ := acquired
    exact echoes_taken mirrors failures script fits

private theorem echoes_beginPass {image : UInt32}
    (mirrors : Mirrors table frames ⟨.acquired image, held, owed⟩ p' stack s stage)
    (clear : Color) :
    (free (even table)).Keeps (Stack.answer (.beginPass image clear) stack) s
      (Echoes table frames ⟨.acquired image, held, owed⟩ p' stage (.beginPass image clear)
        (.beginPass image clear)) := by
  have stocked := mirrors.stocked Phase.noConfusion
  have there : image.toNat < stack.screen.targets.framebuffers.length := by
    rw [stocked.framebuffers]
    exact mirrors.fence.2
  have begun := (spared_undisturbed table s stack.gate.inFlight).beginPass (.refl ..) clear there
  refine (Keeps.and (even_fits mirrors.fits (.beginPass image clear) rfl) begun).mono ?_
  rintro ⟨_ | recording, after⟩ t ⟨fits, begun⟩
  · exact begun.elim
  obtain ⟨rfl, script, -⟩ := begun
  refine ⟨.ok (stage.recordings + 1),
    { stage with recordings := stage.recordings + 1 }.write (.beginPass image), rfl, rfl, ?_⟩
  exact { mirrors with
    phase := rfl
    fits
    stocked := fun _ => stocked
    prompted := by rw [script]; exact mirrors.prompted
    fence := mirrors.fence.1 }

private theorem echoes_endPass {image : UInt32}
    (mirrors : Mirrors table frames ⟨.recording image, held, owed⟩ p' stack s stage) :
    (free (even table)).Keeps (Stack.answer .endPass stack) s
      (Echoes table frames ⟨.recording image, held, owed⟩ p' stage .endPass .endPass) := by
  obtain ⟨phase', held', owed'⟩ := p'
  obtain rfl : phase' = .recording image := mirrors.phase
  have ended : (free (even table)).KeepsOp Stack.endPass stack s
      (fun _ after t => after = stack ∧ Spared s stack.gate.inFlight t) fun _ _ _ => False :=
    (spared_undisturbed table s _).endPass (.refl ..)
  refine (Keeps.and (even_fits mirrors.fits .endPass ⟨image, rfl⟩) ended).mono ?_
  rintro ⟨_ | _, after⟩ t ⟨fits, ended⟩
  · exact ended.elim
  obtain ⟨rfl, script, -⟩ := ended
  refine ⟨.ok (), stage.write .endPass, rfl, rfl, ?_⟩
  exact { mirrors with
    phase := rfl
    fits
    stocked := fun _ => mirrors.stocked Phase.noConfusion
    prompted := by rw [script]; exact mirrors.prompted
    fence := mirrors.fence }

private theorem echoes_present {image : UInt32}
    (mirrors : Mirrors table frames ⟨.recorded image, held, owed⟩ p' stack s stage) :
    (free (even table)).Keeps (Stack.answer (.present image) stack) s
      (Echoes table frames ⟨.recorded image, held, owed⟩ p' stage (.present image)
        (.present image)) := by
  have unsubmitted : Unsubmitted stack.gate frames s.1 := mirrors.fits.2
  have prompted := mirrors.prompted
  refine (Keeps.and (even_fits mirrors.fits (.present image) rfl)
    (even_present unsubmitted.fenceLive image)).mono ?_
  rintro ⟨_ | outcome, after⟩ t ⟨fits, presented⟩
  · exact presented.elim
  obtain ⟨rfl, rfl, script, ready⟩ := presented
  refine ⟨.ok (stage.presentOutcomes.headD .presented), { stage with
    presentOutcomes := stage.presentOutcomes.tail, fenceSignaled := true }.write
      (.submitPresent image), rfl, ?_, ?_⟩
  · rw [prompted.outcomes]
    rfl
  · exact { mirrors with
      phase := rfl
      fits
      stocked := fun _ => mirrors.stocked Phase.noConfusion
      prompted := by
        rw [script]
        exact { prompted with outcomes := congrArg List.tail prompted.outcomes }
      fence := ⟨rfl, ready⟩ }

private theorem echoes_rebuild (mirrors : Mirrors table frames p p' stack s stage)
    {extent : Extent} (allowed : p.Allows (.rebuild extent)) (pixels : extent.isEmpty = false) :
    (free (even table)).Keeps (Stack.answer (.rebuild extent) stack) s
      (Echoes table frames p p' stage (.rebuild extent) (.rebuild extent)) := by
  have present_ : p.phase ≠ .gone := by
    obtain resting | late := allowed
    · rw [resting]
      exact Phase.noConfusion
    · rw [late]
      exact Phase.noConfusion
  have rebuilt := even_rebuild (s := s) (mirrors.stocked present_).memory extent
  refine (Keeps.and (even_fits mirrors.fits _ allowed) rebuilt).mono ?_
  rintro ⟨_ | _, after⟩ t ⟨fits, rebuilt⟩
  · exact rebuilt.elim
  obtain ⟨renewed, script⟩ := rebuilt
  refine ⟨.ok (), { stage with extent, fenceSignaled := true, nextImage := 0 }.write
    (.rebuild extent), rfl, rfl, ?_⟩
  have prompted := mirrors.prompted
  have size : after.screen.extent = extent := by
    rw [renewed.extent, Extent.shown_of_isEmpty pixels]
  exact {
    phase := rfl
    held := mirrors.held
    fits
    stocked := fun _ => renewed.toStocked
    extent := size.symm
    pixels := by rw [size, pixels]
    prompted := by
      rw [script]
      exact { prompted with turn := rfl, inTurn := Nat.succ_pos _ }
    fence := ⟨rfl, renewed.ready⟩ }

private theorem keeps_result {α : Type} (stack : Stack) {task : Driver.Task α}
    {good : α → QueueState × DriverScript → Prop}
    (kept : (free (even table)).KeepsTask task s good fun _ _ => False) :
    (free (even table)).Keeps (do
      let result ← task.run
      return (result, stack) : Program Driver (Except GraphicsError α × Stack)) s
      fun out t => ∃ a, out = (.ok a, stack) ∧ good a t := by
  rw [keeps_bind, keepsTask_run]
  exact kept.mono (fun a _ good => ⟨a, rfl, good⟩) fun _ _ => False.elim

private theorem echoes_createTexture
    (mirrors : Mirrors table frames ⟨.resting, none, owed⟩ p' stack s stage)
    (pixels : PixelBuffer) :
    (free (even table)).Keeps (Stack.answer (.createTexture pixels) stack) s
      (Echoes table frames ⟨.resting, none, owed⟩ p' stage (.createTexture pixels)
        (.createTexture pixels)) := by
  have stocked := mirrors.stocked Phase.noConfusion
  have created := keeps_result stack <|
    (spared_undisturbed table s stack.gate.inFlight).createTexture (.refl ..) stocked.memory pixels
  refine (Keeps.and (even_fits mirrors.fits (.createTexture pixels) ⟨rfl, rfl⟩)
    created).mono ?_
  rintro _ t ⟨fits, texture, rfl, size, spared⟩
  refine ⟨.ok stage.nextTexture, (stage.create pixels).2, rfl, rfl, ?_⟩
  exact { mirrors with
    phase := mirrors.phase
    held := ⟨rfl, size, ⟨pixels.extent, pixels.rgba⟩, by simp [Rehearsal.create, Rehearsal.write],
      rfl⟩
    fits
    stocked := fun _ => stocked
    prompted := by rw [spared.1]; exact mirrors.prompted
    fence := mirrors.fence.spared spared }

private theorem echoes_updateTexture {texture : SampledImage} {id : Nat} {pixels : PixelBuffer}
    (mirrors : Mirrors table frames ⟨.resting, some (texture, pixels.extent), owed⟩ p' stack s
      stage) (current : p'.held = some (id, pixels.extent)) :
    (free (even table)).Keeps (Stack.answer (.updateTexture texture pixels) stack) s
      (Echoes table frames ⟨.resting, some (texture, pixels.extent), owed⟩ p' stage
        (.updateTexture texture pixels) (.updateTexture id pixels)) := by
  have stocked := mirrors.stocked Phase.noConfusion
  have held := mirrors.held
  rw [current] at held
  obtain ⟨-, size, stored, found, same⟩ := held
  have updated := keeps_result stack <|
    (spared_undisturbed table s stack.gate.inFlight).updateTexture (.refl ..) stocked.memory size
  refine (Keeps.and (even_fits mirrors.fits (.updateTexture texture pixels) ⟨rfl, rfl⟩)
    updated).mono ?_
  rintro _ t ⟨fits, _, rfl, spared⟩
  have answered : stage.answer (.updateTexture id pixels) = (.ok (.ok ()),
      { stage with textures := stage.textures.map fun entry : Nat × StoredTexture =>
          if entry.1 = id then (id, ⟨stored.extent, pixels.rgba⟩) else entry }.write
        (.updateTexture id)) := by
    simp [Rehearsal.answer, Rehearsal.update, Rehearsal.texture?, found, same]
  obtain ⟨-, overwritten⟩ := Rehearsal.texture?_of_update found same answered
  refine ⟨.ok (), _, answered, rfl, ?_⟩
  exact { mirrors with
    phase := mirrors.phase
    held := by
      change HeldMirrored _ _ p'.held
      rw [current]
      exact ⟨rfl, size, _, overwritten, rfl⟩
    fits
    stocked := fun _ => stocked
    prompted := by rw [spared.1]; exact mirrors.prompted
    fence := mirrors.fence.spared spared }

private theorem echoes_releaseTexture (mirrors : Mirrors table frames p p' stack s stage)
    {texture : SampledImage} {id : Nat} {size : Extent}
    (allowed : p.Allows (.releaseTexture texture)) (current : p'.held = some (id, size)) :
    (free (even table)).Keeps (Stack.answer (.releaseTexture texture) stack) s
      (Echoes table frames p p' stage (.releaseTexture texture) (.releaseTexture id)) := by
  obtain ⟨size', here⟩ := allowed.2
  have held := mirrors.held
  rw [here, current] at held
  obtain ⟨-, -, stored, found, -⟩ := held
  have released : (free (even table)).Keeps (Stack.answer (.releaseTexture texture) stack) s
      fun out t => out.2 = stack ∧ Spared s stack.gate.inFlight t := by
    have undisturbed := spared_undisturbed table s stack.gate.inFlight
    rw [Stack.answer, keeps_bind]
    exact (undisturbed.releaseTexture (.refl ..) texture).mono fun _ t spared => ⟨rfl, spared⟩
  refine (Keeps.and (even_fits mirrors.fits _ allowed) released).mono ?_
  rintro ⟨_, _⟩ t ⟨fits, rfl, spared⟩
  have answered : stage.answer (.releaseTexture id) = (.ok (),
      (({ stage with textures := stage.textures.filter (·.1 ≠ id) }.write (.destroyView id)).write
        (.destroyImage id)).write (.freeMemory id)) := by
    simp [Rehearsal.answer, Rehearsal.release, Rehearsal.texture?, found]
  refine ⟨(), _, answered, rfl, ?_⟩
  exact { mirrors with
    phase := mirrors.phase
    held := trivial
    fits
    prompted := by rw [spared.1]; exact mirrors.prompted
    fence := mirrors.fence.spared spared }

private theorem echoes_binding (mirrors : Mirrors table frames p p' stack s stage)
    {texture : SampledImage} {id : Nat} {size size' : Extent}
    (here : p.held = some (texture, size)) (current : p'.held = some (id, size')) :
    Echoes table frames p p' stage (.binding texture) (.binding id)
      (stack.binding texture, stack) s := by
  have held := mirrors.held
  rw [here, current] at held
  obtain ⟨-, own, stored, found, same⟩ := held
  refine ⟨⟨.null, .null, .shaderReadOnly, stored.extent⟩, stage, ?_, ?_, mirrors⟩
  · simp [Rehearsal.answer, Rehearsal.binding, Rehearsal.texture?, found]
  · exact congrArg (Echo.bound _) (own.trans same.symm)

private theorem echoes_waitIdle (mirrors : Mirrors table frames p p' stack s stage)
    (allowed : p.Allows .waitIdle) :
    (free (even table)).Keeps (Stack.answer .waitIdle stack) s
      (Echoes table frames p p' stage .waitIdle .waitIdle) := by
  have idle := keeps_result stack <|
    (spared_undisturbed table s stack.gate.inFlight).perform (.refl ..) .deviceIdle trivial
  refine (Keeps.and (even_fits mirrors.fits _ allowed) idle).mono ?_
  rintro _ t ⟨fits, _, rfl, spared⟩
  refine ⟨.ok (), stage.write .waitIdle, rfl, rfl, ?_⟩
  obtain ⟨phase, held, owed⟩ := p
  obtain ⟨phase', held', owed'⟩ := p'
  obtain rfl : phase' = phase := mirrors.phase
  have prompted : Prompted t.2 stage.nextImage stage.acquireErrors stage.presentOutcomes := by
    rw [spared.1]
    exact mirrors.prompted
  obtain rfl | ⟨image, rfl⟩ := allowed
  · exact { mirrors with
      phase := rfl
      fits
      prompted
      fence := mirrors.fence.spared spared }
  · exact { mirrors with
      phase := rfl
      fits
      stocked := fun _ => mirrors.stocked Phase.noConfusion
      prompted
      fence := trivial }

private theorem echoes_tearDown (mirrors : Mirrors table frames p p' stack s stage)
    (allowed : p.Allows .tearDown) :
    (free (even table)).Keeps (Stack.answer .tearDown stack) s
      (Echoes table frames p p' stage .tearDown .tearDown) := by
  have sized : (free (even table)).Keeps (Stack.answer .tearDown stack) s fun out _ =>
      out.2.screen.extent = stack.screen.extent :=
    answer_keeps_size (by simp)
  refine (Keeps.and (even_fits mirrors.fits _ allowed) (Keeps.and sized even_tearDown)).mono ?_
  rintro ⟨_, after⟩ t ⟨fits, size, script⟩
  have size : after.screen.extent = stack.screen.extent := size
  have prompted : Prompted t.2 stage.nextImage stage.acquireErrors stage.presentOutcomes := by
    rw [script]
    exact mirrors.prompted
  have answered : ∃ cues,
      stage.answer .tearDown = (.ok (), { stage with cues, tornDown := true }) := by
    simp only [Rehearsal.answer]
    cases tornDown : stage.tornDown with
    | true => exact ⟨stage.cues, by simp [← tornDown]⟩
    | false => exact ⟨.tearDown :: stage.cues, rfl⟩
  obtain ⟨cues, answered⟩ := answered
  refine ⟨(), _, answered, rfl, ?_⟩
  exact {
    phase := rfl
    held := mirrors.held
    fits
    stocked := fun there => absurd rfl there
    extent := mirrors.extent.trans size.symm
    pixels := by rw [size]; exact mirrors.pixels
    prompted
    fence := trivial }

/-- Every call that the protocol allows on both sides keeps the stage like the stack. -/
theorem Mirrors.answer (mirrors : Mirrors table frames p p' stack s stage)
    {call : GraphicsCall SampledImage} {call' : GraphicsCall Nat}
    (same : call.shadow = call'.shadow) (allowed : p.Allows call) (allowed' : p'.Allows call')
    (pixels : ∀ extent, call = .rebuild extent → extent.isEmpty = false) :
    (free (even table)).Keeps (Stack.answer call stack) s
      (Echoes table frames p p' stage call call') := by
  obtain ⟨phase, held, owed⟩ := p
  match call, call', same with
  | .extent, .extent, _ =>
    exact ⟨stage.extent, stage, rfl, congrArg Echo.extent mirrors.extent.symm, mirrors⟩
  | .waitForPrevious, .waitForPrevious, _ =>
    obtain ⟨rfl, settled⟩ := allowed
    exact echoes_waitForPrevious mirrors ⟨rfl, settled⟩
  | .acquire, .acquire, _ =>
    obtain ⟨rfl, settled⟩ := allowed
    exact echoes_acquire mirrors ⟨rfl, settled⟩
  | .beginPass image clear, .beginPass _ _, rfl =>
    obtain rfl : phase = .acquired image := allowed
    exact echoes_beginPass mirrors clear
  | .endPass, .endPass, _ =>
    obtain ⟨image, rfl⟩ := allowed
    exact echoes_endPass mirrors
  | .present image, .present _, rfl =>
    obtain rfl : phase = .recorded image := allowed
    exact echoes_present mirrors
  | .rebuild extent, .rebuild _, rfl => exact echoes_rebuild mirrors allowed (pixels extent rfl)
  | .createTexture buffer, .createTexture _, rfl =>
    obtain ⟨rfl, rfl⟩ := allowed
    exact echoes_createTexture mirrors buffer
  | .updateTexture texture buffer, .updateTexture id _, rfl =>
    obtain ⟨rfl, rfl⟩ := allowed
    exact echoes_updateTexture mirrors allowed'.2
  | .releaseTexture texture, .releaseTexture id, _ =>
    obtain ⟨-, size, here⟩ := allowed'
    exact echoes_releaseTexture mirrors allowed here
  | .binding texture, .binding id, _ =>
    obtain ⟨-, size, here⟩ := allowed
    obtain ⟨-, size', here'⟩ := allowed'
    exact echoes_binding mirrors here here'
  | .waitIdle, .waitIdle, _ => exact echoes_waitIdle mirrors allowed
  | .tearDown, .tearDown, _ => exact echoes_tearDown mirrors allowed

end Calls

end Vulkan

end PaintPresenter
