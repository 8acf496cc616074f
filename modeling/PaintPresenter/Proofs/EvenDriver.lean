import PaintPresenter.Proofs.Faultless

/-!
# A driver that hands out images in turn

On an even driver the surface leaves the size open, every swapchain has three images, and they are
taken in turn from the first one on. No call fails but an acquire, and a present finds the swapchain
fitting or not, as a script says. An acquire that fails takes no image.

There is a reply to every call but one: a wait has one only where the fence is signaled or will be.
-/

namespace PaintPresenter.Vulkan

open Contract QueueState

variable {q t : QueueState} {fence : Handle .fence} {c : DriverCall} {reply : c.Reply}

/-! ## Fences that can be waited for -/

namespace QueueState

/-- A wait for the fence comes to an end. -/
def Waitable (s : QueueState) (fence : Handle .fence) : Prop :=
  fence.object ∈ s.live ∧ s.WillSignal fence

private theorem waitable_lasting (fence : Handle .fence) : Lasting (·.Waitable fence) :=
  (live_lasting fence.object).and (willSignal_lasting fence)

private theorem live_effect {o : Object} (live : o ∈ q.live) (spared : c ≠ .release o)
    (kept : o.kind ≠ .commandBuffer) (effect : q.Effect c reply t) : o ∈ t.live := by
  cases c with
  | create request =>
    cases reply with
    | error result => exact (show t = q from effect) ▸ live
    | ok made =>
      obtain ⟨-, -, rfl⟩ := effect
      exact List.mem_cons_of_mem _ live
  | release p =>
    obtain rfl : t = _ := effect
    refine List.mem_filter.mpr ⟨live, ?_⟩
    have other : o ≠ p := fun same => spared (congrArg _ same.symm)
    simpa using other
  | freeCommands pool buffer =>
    obtain rfl : t = _ := effect
    refine List.mem_filter.mpr ⟨live, ?_⟩
    have other : o ≠ buffer.object := fun same => kept (congrArg Object.kind same)
    simpa using other
  | perform operation =>
    cases reply with
    | error result => exact (show t = q from effect) ▸ live
    | ok =>
      cases operation with
      | waitForFence fence timeoutNs => exact effect.2.2 ▸ live
      | resetFence fence => exact (show t = _ from effect) ▸ live
      | submit queue work => exact (show t = _ from effect) ▸ live
      | queueIdle queue => exact effect.2 ▸ live
      | deviceIdle => exact effect.2 ▸ live
      | _ => exact (show t = q from effect) ▸ live
  | acquire swapchain timeoutNs semaphore =>
    cases reply with
    | ok image => exact (show t = _ from effect) ▸ live
    | error result => exact (show t = q from effect) ▸ live
  | present queue wait swapchain image =>
    cases reply with
    | ok suboptimal => exact (show t = _ from effect) ▸ live
    | error result =>
      obtain rfl | rfl := effect
      · exact live
      · exact live
  | _ => exact (show t = q from effect) ▸ live

end QueueState

/-- An object outlives every call but its own release. -/
theorem live_step {o : Object} (step : orderly.step q c reply t) (live : o ∈ q.live)
    (spared : c ≠ .release o) (kept : o.kind ≠ .commandBuffer) : o ∈ t.live :=
  queueWorld_step (live_lasting o) (live_lasting o) step.2.2 live
    fun _ _ live effect => live_effect live spared kept effect

/-- A fence that can be waited for stays so through calls that spare fences. -/
theorem waitable_step (step : orderly.step q c reply t) (spares : SparesFences c)
    (kept : c ≠ .release fence.object) (h : q.Waitable fence) : t.Waitable fence :=
  ⟨live_step step h.1 kept ObjectKind.noConfusion, willSignal_step step spares h.2⟩

/-- A new signaled fence can be waited for. -/
theorem waitable_made {made : Handle .fence}
    (step : orderly.step q (.create (.fence true)) (.ok made) t) : t.Waitable made := by
  refine ⟨?_, willSignal_made step⟩
  apply queueWorld_step (P := fun _ => True) (fun _ _ _ _ => trivial) (live_lasting made.object)
    step.2.2 trivial
  rintro u v - ⟨-, -, rfl⟩
  exact List.mem_cons_self

/-! ## The script -/

/-- What a driver will report of swapchains. -/
structure DriverScript where
  /-- The image to take next. -/
  turn : Nat := 0
  /-- Codes that the next acquires fail with. -/
  failures : List ResultCode := []
  /-- Outcomes of the next presents; without one an image is presented. -/
  outcomes : List PresentOutcome := []

/-- Properties of the memory that pixels are staged in. -/
abbrev MemoryFlags.staging : MemoryFlags := MemoryFlags.hostVisible ||| MemoryFlags.hostCoherent

/-- There is memory of both types that uploads ask for. -/
def MemoryTable.Suits (table : MemoryTable) (typeBits : UInt32) : Prop :=
  (table.typeFor? typeBits MemoryFlags.staging).isSome ∧
    (table.typeFor? typeBits MemoryFlags.deviceLocal).isSome

/-- The surface leaves the size open. -/
structure SurfaceLimits.Open (limits : SurfaceLimits) : Prop where
  current : limits.current.width = 0xffffffff
  least : limits.minExtent = ⟨1, 1⟩
  most : limits.maxExtent = ⟨0xffffffff, 0xffffffff⟩

namespace DriverScript

/-- Number of images of every swapchain. -/
def images : Nat := 3

/-- How the next acquire ends. -/
def acquired (s : DriverScript) : Except ResultCode AcquiredImage :=
  match s.failures with
  | result :: _ => .error result
  | [] => .ok ⟨.ofNat s.turn, false⟩

/-- How the next present ends. -/
def presented (s : DriverScript) : Except ResultCode Bool :=
  match s.outcomes.headD .presented with
  | .presented => .ok false
  | .suboptimal => .ok true
  | .outOfDate => .error .outOfDate

/-- A reply is as the script says, `table` being the memory of the device. -/
def Tells (table : MemoryTable) (s : DriverScript) : (c : DriverCall) → c.Reply → Prop
  | .acquire _ _ _, reply => reply = s.acquired
  | .present _ _ _ _, reply => reply = s.presented
  | .memory _, reply => reply = table
  | .bufferNeeds _, needs | .imageNeeds _, needs => table.Suits needs.typeBits
  | .surfaceLimits _ _, .ok limits => limits.Open
  | .swapchainImages _, .ok reported => reported.length = images
  | _, _ => True

/-- What is left of the script after a call. -/
def after (s : DriverScript) : (c : DriverCall) → c.Reply → DriverScript
  | .create (.swapchain _), .ok _ => { s with turn := 0 }
  | .acquire _ _ _, .ok _ => { s with turn := (s.turn + 1) % images }
  | .acquire _ _ _, .error _ => { s with failures := s.failures.tail }
  | .present _ _ _ _, _ => { s with outcomes := s.outcomes.tail }
  | _, _ => s

end DriverScript

/-- The driver that follows a script. -/
def scripted (table : MemoryTable) : Program.World Driver DriverScript where
  step s c reply t :=
    (¬c.Swaps → c.failure? reply = none) ∧ c.Sensible reply ∧ s.Tells table c reply ∧
      t = s.after c reply

/-- The orderly driver that follows a script. -/
def even (table : MemoryTable) : Program.World Driver (QueueState × DriverScript) where
  step s c reply t := orderly.step s.1 c reply t.1 ∧ (scripted table).step s.2 c reply t.2

/-! ## A driver that does everything at once -/

namespace QueueState

/-- All pending work is done. -/
def drained (s : QueueState) : QueueState :=
  { s with
    pending := []
    signaled := s.pending.foldl (fun signaled w => settle w signaled) s.signaled }

private theorem progress_drained (s : QueueState) : Progress s s.drained := by
  obtain ⟨live, signaled, pending⟩ := s
  induction pending generalizing signaled with
  | nil => exact .refl
  | cons w later ih => exact .head (.one w [] later rfl) (ih (settle w signaled))

/-- What a call does that gets a reply. -/
def after (s : QueueState) : (c : DriverCall) → c.Reply → QueueState
  | .create request, .ok made => { s with
    live := made.object :: s.live
    signaled := signaledWith request made.object s.signaled }
  | .release o, _ => { s with live := s.live.filter (· ≠ o) }
  | .freeCommands _ buffer, _ => { s with live := s.live.filter (· ≠ buffer.object) }
  | .perform (.resetFence fence), _ =>
    { s with signaled := s.signaled.filter (· ≠ fence.object) }
  | .perform (.submit _ work), _ => { s with pending := s.pending ++ [work] }
  | .acquire _ _ semaphore, .ok _ => { s with signaled := semaphore.object :: s.signaled }
  | .present _ wait _ _, _ => { s with pending := s.pending ++ [.presentation wait] }
  | _, _ => s

/-- A wait for a fence finds it signaled. -/
def ready (s : QueueState) : DriverCall → Bool
  | .perform (.waitForFence fence _) => fence.object ∈ s.live ∧ fence.object ∈ s.signaled
  | _ => true

/-- Only waits for fences are ever not ready. -/
theorem ready_of_unfenced (unfenced : c.Unfenced) (s : QueueState) : s.ready c = true := by
  cases c with
  | perform operation =>
    cases operation with
    | waitForFence fence timeoutNs => exact unfenced.elim
    | _ => rfl
  | _ => rfl

/-- Once all work is done, a wait for a waitable fence is ready. -/
theorem Waitable.ready (h : q.Waitable fence) (timeoutNs : Nat) :
    q.drained.ready (.perform (.waitForFence fence timeoutNs)) = true := by
  obtain ⟨live, signaled | ⟨w, pending, -⟩⟩ :=
    (waitable_lasting fence).progress (progress_drained q) h
  · exact decide_eq_true ⟨live, signaled⟩
  · exact absurd pending List.not_mem_nil

end QueueState

/-- The reply that a script asks for; what is made gets a number. -/
def DriverScript.granted (table : MemoryTable) (number : Nat) (s : DriverScript) :
    (c : DriverCall) → c.Reply
  | .acquire _ _ _ => s.acquired
  | .present _ _ _ _ => s.presented
  | .memory _ => table
  | .bufferNeeds _ | .imageNeeds _ => ⟨1, 0xffffffff⟩
  | .surfaceLimits _ _ => .ok { maxExtent := ⟨0xffffffff, 0xffffffff⟩ }
  | .swapchainImages _ => .ok [⟨number⟩, ⟨number + 1⟩, ⟨number + 2⟩]
  | c => c.granted number

/-- Finishes all work before a call and replies as a script asks for. -/
def evenly (table : MemoryTable) (c : DriverCall) (s : QueueState × DriverScript) :
    Except Fault c.Reply × (QueueState × DriverScript) :=
  let q := s.1.drained
  let told := s.2.granted table q.fresh c
  if q.ready c then (.ok told, (q.after c told, s.2.after c told)) else (.error .deadlock, s)

section Evenly

variable {table : MemoryTable} (number : Nat) (s : DriverScript)

private theorem presented_error {result : ResultCode} (failed : s.presented = .error result) :
    result = .outOfDate := by
  unfold DriverScript.presented at failed
  split at failed
  · exact absurd failed (by simp)
  · exact absurd failed (by simp)
  · exact (Except.error.inj failed).symm

private theorem granted_succeeds (swaps : ¬c.Swaps) :
    c.failure? (s.granted table number c) = none := by
  cases c with
  | acquire swapchain timeoutNs semaphore => exact absurd trivial swaps
  | present queue wait swapchain image => exact absurd trivial swaps
  | _ => rfl

private theorem granted_inOrder : c.FailsInOrder (s.granted table number c) := by
  by_cases swaps : c.Swaps
  · cases c with
    | acquire swapchain timeoutNs semaphore => exact fun _ _ => ⟨fun _ => trivial, fun _ => trivial⟩
    | present queue wait swapchain image =>
      intro result failed
      have scripted : s.presented = .error result := by
        change DriverCall.failure? (.present ..) s.presented = _ at failed
        cases told : s.presented with
        | ok suboptimal => simp [told, DriverCall.failure?] at failed
        | error code => simpa [told, DriverCall.failure?] using failed
      obtain rfl := presented_error s scripted
      exact ⟨fun late => absurd late (by decide), fun _ => trivial⟩
    | _ => exact swaps.elim
  · intro result failed
    rw [granted_succeeds number s swaps] at failed
    exact absurd failed (by simp)

private theorem granted_sensible (made : 0 < number) : c.Sensible (s.granted table number c) := by
  cases c with
  | create request =>
    have real : (⟨number⟩ : Handle request.kind) ≠ .null := by
      simp [Handle.null, Nat.ne_of_gt made]
    exact real
  | surfaceLimits device surface => exact ⟨by decide, fun _ => by decide⟩
  | surfaceFormats device surface => exact List.cons_ne_nil _ _
  | _ => trivial

private theorem granted_tells (suits : table.Suits 0xffffffff) :
    s.Tells table c (s.granted table number c) := by
  cases c with
  | acquire swapchain timeoutNs semaphore => rfl
  | present queue wait swapchain image => rfl
  | memory device => rfl
  | bufferNeeds buffer | imageNeeds image => exact suits
  | surfaceLimits device surface => exact ⟨rfl, rfl, rfl⟩
  | swapchainImages swapchain => rfl
  | create request => cases request <;> trivial
  | _ => trivial

private theorem granted_effect (ready : q.ready c = true) (nothing : q.pending = []) :
    q.Effect c (s.granted table q.fresh c) (q.after c (s.granted table q.fresh c)) := by
  cases c with
  | create request =>
    refine ⟨by simp [Handle.null, fresh], ?_, rfl⟩
    intro live
    exact absurd (number_lt_fresh live) (Nat.lt_irrefl _)
  | perform operation =>
    cases operation with
    | waitForFence fence timeoutNs =>
      obtain ⟨live, signaled⟩ := of_decide_eq_true ready
      exact ⟨live, signaled, rfl⟩
    | queueIdle queue => exact ⟨nothing, rfl⟩
    | deviceIdle => exact ⟨nothing, rfl⟩
    | _ => rfl
  | acquire swapchain timeoutNs semaphore =>
    change q.Effect (.acquire ..) s.acquired (q.after (.acquire ..) s.acquired)
    cases s.acquired with
    | ok image => rfl
    | error result => rfl
  | present queue wait swapchain image =>
    change q.Effect (.present ..) s.presented (q.after (.present ..) s.presented)
    cases s.presented with
    | ok suboptimal => rfl
    | error result => exact .inr rfl
  | _ => rfl

private theorem granted_foreign : c.ReportsForeign q.live (s.granted table q.fresh c) := by
  cases c with
  | swapchainImages swapchain =>
    intro image mem live
    have small := number_lt_fresh live
    have number : q.fresh ≤ image.number := by
      simp only [List.mem_cons, List.not_mem_nil, or_false] at mem
      obtain rfl | rfl | rfl := mem
      · exact Nat.le_refl _
      · exact Nat.le_succ _
      · exact Nat.le_add_right ..
    exact absurd small (Nat.not_lt.mpr number)
  | _ => trivial

end Evenly

variable {table : MemoryTable}

/-- Every reply that the even driver gives is one that its world allows. -/
theorem even_allows (suits : table.Suits 0xffffffff) : (even table).Allows (evenly table) := by
  intro c s reply answered
  unfold evenly at answered ⊢
  by_cases ready : s.1.drained.ready c = true
  · simp only [if_pos ready] at answered ⊢
    obtain rfl := Except.ok.inj answered
    refine ⟨⟨granted_inOrder _ _, granted_foreign (q := s.1.drained) s.2, _, _,
        progress_drained s.1, granted_effect _ ready rfl, .refl⟩,
      fun swaps => granted_succeeds _ _ swaps, granted_sensible _ _ (Nat.succ_pos _),
      granted_tells _ _ suits, rfl⟩
  · simp only [if_neg ready] at answered
    exact absurd answered (by simp)

/-- There is a reply to every call that does not wait for a fence in vain. -/
theorem exists_even_reply (suits : table.Suits 0xffffffff) (s : QueueState × DriverScript)
    (ready : s.1.drained.ready c = true) : ∃ reply t, (even table).step s c reply t := by
  have answered : (evenly table c s).1 = .ok (s.2.granted table s.1.drained.fresh c) := by
    unfold evenly
    simp only [if_pos ready]
  exact ⟨_, _, even_allows suits c s _ answered⟩

end PaintPresenter.Vulkan
