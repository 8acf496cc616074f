import PaintPresenter.Proofs.MirroredCalls
import PaintPresenter.Proofs.TextureAccount

/-!
# A stack in memory rehearses one on a driver

The stack in memory stands in for one on an even driver. Whatever is asked of a renderer, on both
stacks, and however the next acquires and presents are scripted, it reports the same on both, and
the stack in memory says of its fence what is true of the fence on the driver.

Two renderers that get the same replies make the same calls, and each call keeps the stack in memory
a mirror of the other one, so that whole requests do, and any number of them.
-/

namespace PaintPresenter

open Simulation

/-! ## Rebuilds have pixels -/

/-- A stack that reports sizes with pixels only and may be rebuilt at such sizes only. -/
def visible (τ ρ : Type) : Contract (Graphics τ ρ) Unit where
  step
    | _, .extent, size, _ => size.isEmpty = false
    | _, _, _, _ => True
  permits _ call := ∀ extent, call = .rebuild extent → extent.isEmpty = false

namespace Contract

variable {τ ρ : Type} {r : Renderer τ}

/-- The contract permits every call but a rebuild for a size without pixels. -/
@[simp] theorem visible_permits (t : Unit) (call : GraphicsCall τ) :
    (visible τ ρ).permits t call ↔ ∀ extent, call = .rebuild extent → extent.isEmpty = false :=
  Iff.rfl

private theorem settleRebuild_visible (shown : r.minimized = false) :
    (visible τ ρ).KeepsOp Renderer.settleRebuild r () (fun _ _ _ => True)
      fun _ _ _ => True := by
  rw [keepsOp_settleRebuild]
  cases pending : r.pendingSize with
  | some extent =>
    have pixels : extent.isEmpty = false := by simpa [Renderer.minimized, pending] using shown
    simp [pixels]
  | none =>
    by_cases owed : r.rebuildOwed = true
    · rw [if_pos owed]
      refine (keeps_extent _).mpr ⟨by simp, fun extent _ pixels => ?_⟩
      have pixels : extent.isEmpty = false := pixels
      simp [pixels]
    · rw [if_neg owed]
      trivial

private theorem beginFrame_visible :
    (visible τ ρ).KeepsOp Renderer.beginFrame r () (fun _ _ _ => True) fun _ _ _ => True := by
  rw [keepsOp_beginFrame]
  by_cases closed : r.closed = true
  · simp [closed]
  by_cases busy : r.active.isSome = true
  · simp [closed, busy]
  by_cases minimized : r.minimized = true
  · simp [closed, busy, minimized]
  rw [if_neg closed, if_neg busy, if_neg minimized]
  refine (settleRebuild_visible (by simpa using minimized)).mono (fun _ r' _ _ => ?_)
    fun _ _ _ => id
  refine keepsTask_waitForPrevious.mpr ⟨by simp, fun _ _ => ?_, fun _ _ _ => trivial⟩
  refine keepsTask_acquire.mpr ⟨by simp, fun image _ _ => ?_, fun e _ _ => ?_⟩
  · rw [keepsOp_record]
    refine (keepsTask_beginPass ..).mpr ⟨by simp, fun _ _ _ => ?_, fun _ _ _ => trivial⟩
    exact (keeps_extent _).mpr ⟨by simp, fun _ _ _ => trivial⟩
  · by_cases late : e = .outOfDate
    · rw [if_pos late]
      refine (keeps_extent _).mpr ⟨by simp, fun extent _ pixels => ?_⟩
      have pixels : extent.isEmpty = false := pixels
      simp [pixels]
    · rw [if_neg late]
      trivial

/-- Whatever is asked of a renderer, it rebuilds its stack at sizes with pixels only. -/
theorem perform_visible (request : Renderer.Request) :
    (visible τ ρ).Keeps (Renderer.perform request r) () fun _ _ => True := by
  have sizeless (plain : request.Sizeless) :
      (visible τ ρ).Keeps (Renderer.perform request r) () fun _ _ => True := by
    refine (keeps_of_unrebuilt (perform_unrebuilt plain) (fun _ => True)
      (fun _ call _ other => ⟨fun extent same => absurd same (other extent), ?_⟩) trivial).mono
      fun _ _ _ => trivial
    exact fun _ _ _ => trivial
  cases request with
  | requestSize extent =>
    rw [Renderer.perform, keeps_requestSize]
    exact (keeps_extent _).mpr ⟨by simp, fun _ _ _ => trivial⟩
  | beginFrame => exact keeps_ignoring.mpr beginFrame_visible
  | _ => exact sizeless trivial

private theorem keeps_perform {γ : Type} {C : Contract (Graphics τ ρ) γ} {s : γ}
    {post : Unit × Renderer τ → γ → Prop} {request : Renderer.Request} :
    C.Keeps (Renderer.perform request r) s post ↔
      C.Keeps (Renderer.report request r) s fun out => post ((), out.2) := by
  rw [Renderer.perform_eq, keeps_map]

/-- The calls of a request follow the protocol also when it reports. -/
theorem report_follows (tidy : r.Tidy) (request : Renderer.Request) :
    (protocol τ ρ).Keeps (Renderer.report request r) r.position fun out p => out.2.RestsAt p :=
  keeps_perform.mp (perform_follows tidy request)

private theorem report_visible (request : Renderer.Request) :
    (visible τ ρ).Keeps (Renderer.report request r) () fun _ _ => True :=
  keeps_perform.mp (perform_visible request)

end Contract

/-! ## Whole programs -/

namespace Vulkan

open Contract

variable {table : MemoryTable} {frames : Handle .commandBuffer} {p : Position SampledImage}
  {p' : Position Nat} {stack : Stack} {s : QueueState × DriverScript} {stage : Rehearsal}

/-- Every such call comes to its end. -/
theorem Mirrors.delivers (mirrors : Mirrors table frames p p' stack s stage)
    (suits : table.Suits 0xffffffff) {call : GraphicsCall SampledImage} {call' : GraphicsCall Nat}
    (same : call.shadow = call'.shadow) (allowed : p.Allows call) (allowed' : p'.Allows call')
    (pixels : ∀ extent, call = .rebuild extent → extent.isEmpty = false) :
    (Stack.answer call stack).Delivers (even table) s
      (Echoes table frames p p' stage call call') := by
  refine even_delivers suits ?_ (mirrors.answer same allowed allowed' pixels)
  rintro rfl
  have fence := mirrors.fence
  rw [allowed.1] at fence
  exact fence.2

private theorem Mirrors.shows (mirrors : Mirrors table frames p p' stack s stage)
    {call : GraphicsCall SampledImage} {call' : GraphicsCall Nat} {reply : call.Reply Recording}
    {reply' : call'.Reply Nat} {after : Rehearsal} (same : call.shadow = call'.shadow)
    (answered : stage.answer call' = (.ok reply', after))
    (echo : call.echo reply = call'.echo reply') :
    (visible SampledImage Recording).step () call reply () := by
  match call, call', same with
  | .extent, .extent, _ =>
    obtain rfl : stage.extent = reply' := Except.ok.inj (Prod.mk.inj answered).1
    obtain rfl : reply = stage.extent := Echo.extent.inj echo
    change stage.extent.isEmpty = false
    rw [mirrors.extent]
    exact mirrors.pixels
  | .waitForPrevious, _, _ | .acquire, _, _ | .beginPass _ _, _, _ | .endPass, _, _
  | .present _, _, _ | .rebuild _, _, _ | .createTexture _, _, _ | .updateTexture _ _, _, _
  | .releaseTexture _, _, _ | .binding _, _, _ | .waitIdle, _, _ | .tearDown, _, _ => trivial

/-- Two programs that make the same calls end alike on a stack and on its mirror, and the mirror
stays one. -/
theorem Mirrors.run {α β : Type} {R : α → β → Prop}
    {P : Program (Graphics SampledImage Recording) α} {Q : Program (Graphics Nat Nat) β}
    {left : α → Position SampledImage × Unit → Prop}
    {right : β → Position Nat → Prop} (mirrors : Mirrors table frames p p' stack s stage)
    (suits : table.Suits 0xffffffff) (alike : Program.Alike R P Q)
    (follows : ((protocol SampledImage Recording).both (visible SampledImage Recording)).Keeps P
      (p, ()) left) (follows' : (protocol Nat Nat).Keeps Q p' right) :
    (P.interpret Stack.answer stack).Delivers (even table) s fun out t =>
      ∃ b, (Q.run Rehearsal.answer stage).result = .ok b ∧ R out.1 b ∧ ∃ q q',
        left out.1 (q, ()) ∧ right b q' ∧
          Mirrors table frames q q' out.2 t (Q.run Rehearsal.answer stage).state := by
  -- The programs go through the same calls, each of which keeps the mirror.
  induction alike generalizing p p' stack s stage with
  | done alike => exact ⟨_, rfl, alike, p, p', follows, follows', mirrors⟩
  | note r later ih => exact ih mirrors follows follows'
  | @call c d k k' same later ih =>
    refine (mirrors.delivers suits same follows.1.1 follows'.1 follows.1.2).bind ?_
    rintro ⟨reply, stack⟩ t ⟨reply', after, answered, echo, mirrored⟩
    have next := ih reply reply' echo mirrored
      (follows.2 reply _ ⟨rfl, mirrors.shows same answered echo⟩) (follows'.2 reply' _ rfl)
    have ran : Program.run Rehearsal.answer (.call (I := Graphics Nat Nat) d k') stage =
        (k' reply').run Rehearsal.answer after := by
      rw [Program.run, answered]
    rw [ran]
    exact next

/-! ## Step by step -/

/-- One request, and what is added to the script before it. -/
structure ScriptedStep where
  request : Renderer.Request
  /-- Codes that further acquires fail with. -/
  failures : List ResultCode := []
  /-- Outcomes of further presents. -/
  outcomes : List PresentOutcome := []

namespace ScriptedStep

/-- Tells a driver what the step adds. -/
def promptDriver (step : ScriptedStep) (script : DriverScript) : DriverScript :=
  { script with
    failures := script.failures ++ step.failures
    outcomes := script.outcomes ++ step.outcomes }

/-- Tells a stack in memory the same. -/
def promptStage (step : ScriptedStep) (stage : Rehearsal) : Rehearsal :=
  { stage with
    acquireErrors := stage.acquireErrors ++ step.failures.map acquireError
    presentOutcomes := stage.presentOutcomes ++ step.outcomes }

end ScriptedStep

/-- As far as an owner can tell, two renderers are in the same place. Until the first one is shut
down, the fence of the stage is signaled where the one on the driver is signaled or will be. -/
structure Abreast (r : Renderer SampledImage) (stack : Stack) (q : QueueState)
    (r' : Renderer Nat) (stage : Rehearsal) : Prop where
  presented : r.presented = r'.presented
  fence : r.closed = false → (stage.fenceSignaled = true ↔ q.WillSignal stack.gate.inFlight)

/-- Two renderers stay abreast: whatever the driver does, every step comes to its end on both stacks
and reports the same. -/
def InStep (table : MemoryTable) : List ScriptedStep → Renderer SampledImage → Stack →
    QueueState × DriverScript → Renderer Nat → Rehearsal → Prop
  | [], r, stack, s, r', stage => Abreast r stack s.1 r' stage
  | step :: later, r, stack, s, r', stage =>
    Abreast r stack s.1 r' stage ∧
      ((Renderer.report step.request r).interpret Stack.answer stack).Delivers (even table)
        (s.1, step.promptDriver s.2) fun ((report, r), stack) t =>
          let rehearsed := (Renderer.report step.request r').run Rehearsal.answer
            (step.promptStage stage)
          ∃ r', rehearsed.result = .ok (report, r') ∧
            InStep table later r stack t r' rehearsed.state

section Steps

variable {r : Renderer SampledImage} {r' : Renderer Nat}

private theorem Mirrors.abreast (alike : r.Alike r')
    (mirrors : Mirrors table frames r.position p' stack s stage) :
    Abreast r stack s.1 r' stage where
  presented := alike.presented
  fence open_ := by
    cases active : r.active with
    | none =>
      have fence := mirrors.fence
      rw [Renderer.position_of_idle ⟨open_, active⟩] at fence
      exact ⟨fun _ => fence.2.2, fun _ => fence.1⟩
    | some image =>
      obtain ⟨-, fits⟩ := mirrors.fits
      have fence := mirrors.fence
      rw [Renderer.position_of_active open_ active] at fits fence
      have unsubmitted : Unsubmitted stack.gate frames s.1 := fits
      have unsignaled : stage.fenceSignaled = false := fence
      refine ⟨fun signaled => ?_, ?_⟩
      · exact absurd (unsignaled.symm.trans signaled) Bool.false_ne_true
      · rintro (signaled | ⟨w, mem, own⟩)
        · exact absurd signaled unsubmitted.unsignaled
        · have null := own.symm.trans (unsubmitted.quiet w mem).fence
          exact absurd null (ne_null_of_live unsubmitted.real unsubmitted.fenceLive)

private theorem Mirrors.prompt (mirrors : Mirrors table frames p p' stack s stage)
    (step : ScriptedStep) :
    Mirrors table frames p p' stack (s.1, step.promptDriver s.2) (step.promptStage stage) :=
  { mirrors with
    prompted := {
      turn := mirrors.prompted.turn
      inTurn := mirrors.prompted.inTurn
      errors := by
        rw [ScriptedStep.promptStage, ScriptedStep.promptDriver, List.map_append]
        exact congrArg (· ++ _) mirrors.prompted.errors
      outcomes := congrArg (· ++ step.outcomes) mirrors.prompted.outcomes } }

/-- Renderers on a stack and on its mirror stay abreast. -/
theorem Mirrors.inStep (suits : table.Suits 0xffffffff) (steps : List ScriptedStep)
    (alike : r.Alike r') (tidy : r.Tidy) (tidy' : r'.Tidy)
    (mirrors : Mirrors table frames r.position r'.position stack s stage) :
    InStep table steps r stack s r' stage := by
  induction steps generalizing r r' stack s stage with
  | nil => exact mirrors.abreast alike
  | cons step later ih =>
    refine ⟨mirrors.abreast alike, ?_⟩
    have ran := (mirrors.prompt step).run suits (Renderer.report_alike alike step.request)
      ((report_follows tidy step.request).both (report_visible step.request))
      (report_follows tidy' step.request)
    refine ran.mono ?_
    rintro ⟨⟨report, r⟩, stack⟩ t ⟨⟨_, r'⟩, ended, ⟨rfl, alike⟩, _, _, rests, rests', mirrors⟩
    obtain ⟨⟨rfl, tidy⟩, -⟩ := rests
    obtain ⟨rfl, tidy'⟩ := rests'
    exact ⟨r', ended, ih alike tidy tidy' mirrors⟩

end Steps

private theorem mirrors_created {handles : NativeHandles} {settings : GraphicsSettings}
    (created : (Stack.create handles settings).run.Ends (even table) ({}, {}) (.ok stack) s)
    (clearColor : Color) :
    Mirrors table stack.commands (Renderer.position { clearColor })
      (Renderer.position { clearColor }) stack s { extent := settings.extent.shown } := by
  obtain ⟨renewed, script⟩ := (even_createStack handles settings).ends_ok created
  have idle : Idle [] ({} : QueueState) := ⟨nofun, nofun, rfl⟩
  have stable : Stable stack.gate stack.commands s.1 := by
    have built : (frameContract .null).KeepsTask (Stack.create handles settings) {}
        (fun stack t => Stable stack.gate stack.commands t) fun _ _ => True :=
      stable_createStack idle handles settings
    unfold KeepsTask at built
    exact (keeps_even (s := ({}, {})) built).ends created
  exact {
    phase := rfl
    held := trivial
    fits := ⟨fun _ => rfl, stable⟩
    stocked := fun _ => renewed.toStocked
    extent := renewed.extent.symm
    pixels := by rw [renewed.extent, Extent.shown_isEmpty]
    prompted := by rw [script]; exact ⟨rfl, Nat.succ_pos _, rfl, rfl⟩
    fence := ⟨rfl, renewed.ready⟩ }

/-- Whatever is asked of a renderer on a new stack on an even driver, and however acquires and
presents are scripted, a renderer on a stack in memory stays abreast of it. -/
theorem rehearses_stack (suits : table.Suits 0xffffffff) {handles : NativeHandles}
    {settings : GraphicsSettings}
    (created : (Stack.create handles settings).run.Ends (even table) ({}, {}) (.ok stack) s)
    (clearColor : Color) (steps : List ScriptedStep) :
    InStep table steps { clearColor } stack s { clearColor }
      { extent := settings.extent.shown } :=
  (mirrors_created created clearColor).inStep suits steps (Renderer.alike_new clearColor)
    (Renderer.tidy_new clearColor) (Renderer.tidy_new clearColor)

/-- One kind of memory, which is good for everything. -/
def uniformMemory : MemoryTable := .ofLists [7] 1 [⟨0, 1⟩] 1

private theorem uniformMemory_suits : uniformMemory.Suits 0xffffffff := by
  unfold MemoryTable.Suits
  decide +kernel

/-- A stack made on an even driver. -/
def evenRun : Program.Run (QueueState × DriverScript) (Except GraphicsError Stack) :=
  (Stack.create ⟨.ok .wayland, .ok .wayland⟩ {}).run.run (evenly uniformMemory) ({}, {})

/-- An acquire that times out, a frame that comes too late, and an upload on the rebuilt stack. -/
def lateFrame : List ScriptedStep :=
  [{ request := .beginFrame, failures := [.timeout] }, { request := .beginFrame },
    { request := .endFrame, outcomes := [.outOfDate] }, { request := .beginFrame },
    { request := .endFrame }, { request := .upload onePixel }, { request := .shutdown }]

/-- The rehearsal keeps in step through a timed-out acquire, a late frame, an upload and the
shutdown. -/
theorem rehearses_lateFrame :
    ∃ stack, evenRun.result = .ok (.ok stack) ∧
      InStep uniformMemory lateFrame { clearColor := .black } stack evenRun.state
        { clearColor := .black } { extent := ⟨1280, 720⟩ } := by
  have made : (evenRun.result.toOption.bind Except.toOption).isSome = true := by decide +kernel
  cases ran : evenRun.result with
  | error fault => simp [ran, Except.toOption] at made
  | ok result =>
    cases result with
    | error e => simp [ran, Except.toOption] at made
    | ok stack =>
      have created := (even_allows uniformMemory_suits).ends ran
      exact ⟨stack, rfl, rehearses_stack uniformMemory_suits created .black lateFrame⟩

end Vulkan

end PaintPresenter
