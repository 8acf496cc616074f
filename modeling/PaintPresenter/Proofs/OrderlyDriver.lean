import PaintPresenter.Proofs.Bystanders
import PaintPresenter.Proofs.Custody

/-!
# A driver that fails in order

An orderly driver works off a queue and says "not now" only where that can be meant: a wait for a
fence and an acquire may time out, and only an acquire and a present may find the swapchain out of
date. Every call may fail with any other code at any time. What such a driver does is kept in the
book of its objects, so that an object is live exactly when the book shows it.
-/

namespace PaintPresenter.Vulkan

open Contract

variable {γ : Type} {s t : QueueState} {fence : Handle .fence} {c : DriverCall} {reply : c.Reply}

/-! ## Failures -/

namespace DriverCall

/-- The code that a call failed with, if it failed. -/
def failure? : (c : DriverCall) → c.Reply → Option ResultCode
  | .layers, .error result => some result
  | .create _, .error result => some result
  | .devices, .error result => some result
  | .presents _ _ _, .error result => some result
  | .surfaceLimits _ _, .error result => some result
  | .surfaceFormats _ _, .error result => some result
  | .swapchainImages _, .error result => some result
  | .perform _, .error result => some result
  | .acquire _ _ _, .error result => some result
  | .present _ _ _ _, .error result => some result
  | _, _ => none

/-- The call waits for a fence or for an image. -/
def Waits : DriverCall → Prop
  | .perform (.waitForFence _ _) | .acquire _ _ _ => True
  | _ => False

/-- The call takes an image from a swapchain or gives one back. -/
def Swaps : DriverCall → Prop
  | .acquire _ _ _ | .present _ _ _ _ => True
  | _ => False

/-- A call says "not now" only where that can be meant. -/
def FailsInOrder (c : DriverCall) (reply : c.Reply) : Prop :=
  ∀ result, c.failure? reply = some result →
    (result = .timeout ∨ result = .notReady → c.Waits) ∧ (result = .outOfDate → c.Swaps)

/-- The images that a swapchain reports are none of the objects that are live. -/
def ReportsForeign (live : List Object) : (c : DriverCall) → c.Reply → Prop
  | .swapchainImages _, .ok images => ∀ image ∈ images, image.object ∉ live
  | _, _ => True

/-- Which call it is decides it. -/
instance (c : DriverCall) : Decidable c.Waits := by
  unfold Waits
  split <;> infer_instance

/-- Which call it is decides it. -/
instance (c : DriverCall) : Decidable c.Swaps := by
  unfold Swaps
  split <;> infer_instance

/-- A reply tells one failure at most, so there is one result to look at. -/
instance (c : DriverCall) (reply : c.Reply) : Decidable (c.FailsInOrder reply) :=
  inferInstanceAs (Decidable (∀ result ∈ c.failure? reply,
    (result = .timeout ∨ result = .notReady → c.Waits) ∧ (result = .outOfDate → c.Swaps)))

/-- The reported images can be looked up one by one. -/
instance (live : List Object) (c : DriverCall) (reply : c.Reply) :
    Decidable (c.ReportsForeign live reply) := by
  unfold ReportsForeign
  split <;> infer_instance

end DriverCall

/-- An error that costs more than a frame. -/
def Grave (e : GraphicsError) : Prop := e.isRecoverable = false

/-- A call that does not wait fails for the moment only when the swapchain is out of date. -/
theorem DriverCall.FailsInOrder.grave (inOrder : c.FailsInOrder reply) {result : ResultCode}
    (failed : c.failure? reply = some result) (waits : ¬c.Waits)
    (swaps : result = .outOfDate → ¬c.Swaps) (function : String) :
    Grave (.ofResult function result) := by
  obtain ⟨late, stale⟩ := inOrder result failed
  unfold Grave
  rw [Bool.eq_false_iff, ne_eq, GraphicsError.isRecoverable_ofResult]
  rintro (outOfDate | timeout)
  · exact swaps outOfDate (stale outOfDate)
  · exact waits (late timeout)

/-- The driver that works off a queue and fails in order. -/
def orderly : Program.World Driver QueueState where
  step s c reply t :=
    c.FailsInOrder reply ∧ c.ReportsForeign s.live reply ∧ queueWorld.step s c reply t

/-- Gives the answers that are in order, and no others. -/
def QueueState.inOrder
    (answer : (c : DriverCall) → QueueState → Except Fault c.Reply × QueueState)
    (c : DriverCall) (s : QueueState) : Except Fault c.Reply × QueueState :=
  match answer c s with
  | (.ok reply, t) =>
    if c.FailsInOrder reply ∧ c.ReportsForeign s.live reply then (.ok reply, t)
    else (.error .deadlock, s)
  | (.error fault, t) => (.error fault, t)

/-- A driver of the queue world that goes on in order is orderly. -/
theorem orderly_allows
    {answer : (c : DriverCall) → QueueState → Except Fault c.Reply × QueueState}
    (allows : queueWorld.Allows answer) : orderly.Allows (QueueState.inOrder answer) := by
  intro c s reply answered
  have allowed := allows c s
  unfold QueueState.inOrder at answered ⊢
  cases found : answer c s with
  | mk result t =>
    rw [found] at answered allowed
    cases result with
    | error fault => exact absurd answered (by simp)
    | ok promised =>
      by_cases inOrder : c.FailsInOrder promised ∧ c.ReportsForeign s.live promised
      · simp only [if_pos inOrder] at answered ⊢
        obtain rfl := Except.ok.inj answered
        exact ⟨inOrder.1, inOrder.2, allowed promised rfl⟩
      · simp only [if_neg inOrder] at answered
        exact absurd answered (by simp)

/-! ## Signals to come -/

namespace QueueState

/-- The fence is signaled, or will be by work that is pending. -/
def WillSignal (s : QueueState) (fence : Handle .fence) : Prop :=
  fence.object ∈ s.signaled ∨ ∃ w ∈ s.pending, w.fence = fence

/-- A fence that will be signaled goes on to be so while work finishes. -/
theorem willSignal_lasting (fence : Handle .fence) : Lasting (·.WillSignal fence) := by
  rintro s _ h ⟨w, before, after, here⟩
  unfold WillSignal at h ⊢
  obtain signaled | ⟨v, mem, own⟩ := h
  · left
    rw [Handle.object] at signaled
    simp [settle, signaled, Handle.object]
  · by_cases same : v = w
    · left
      simp [settle, ← own, same]
    · right
      refine ⟨v, ?_, own⟩
      rw [here] at mem
      simpa [same] using mem

/-- Calls that reset no fence and make none that is unsignaled. -/
def SparesFences : DriverCall → Prop
  | .perform (.resetFence _) | .create (.fence false) => False
  | _ => True

private theorem WillSignal.mono (h : s.WillSignal fence)
    (signaled : fence.object ∈ s.signaled → fence.object ∈ t.signaled)
    (pending : s.pending ⊆ t.pending) : t.WillSignal fence :=
  h.imp signaled fun ⟨w, mem, own⟩ => ⟨w, pending mem, own⟩

private theorem signaledWith_spares {request : Creation} (spares : SparesFences (.create request))
    (made : Handle request.kind) {signaled : List Object} (here : fence.object ∈ signaled) :
    fence.object ∈ signaledWith request made.object signaled := by
  cases request with
  | fence start =>
    cases start with
    | false => exact spares.elim
    | true => exact List.mem_cons_of_mem _ here
  | _ => exact List.mem_filter.mpr ⟨here, by simp [Handle.object]⟩

private theorem willSignal_effect (spares : SparesFences c) (h : s.WillSignal fence)
    (effect : s.Effect c reply t) : t.WillSignal fence := by
  cases c with
  | create request =>
    cases reply with
    | error result => exact (show t = s from effect) ▸ h
    | ok made =>
      obtain ⟨-, -, rfl⟩ := effect
      exact h.mono (signaledWith_spares spares made) (List.Subset.refl _)
  | release o => exact (show t = _ from effect) ▸ h
  | freeCommands pool buffer => exact (show t = _ from effect) ▸ h
  | perform operation =>
    cases reply with
    | error result => exact (show t = s from effect) ▸ h
    | ok =>
      cases operation with
      | waitForFence fence timeoutNs => exact effect.2.2 ▸ h
      | resetFence fence => exact spares.elim
      | submit queue work =>
        obtain rfl : t = _ := effect
        exact h.mono id (List.subset_append_left _ _)
      | queueIdle queue => exact effect.2 ▸ h
      | deviceIdle => exact effect.2 ▸ h
      | _ => exact (show t = s from effect) ▸ h
  | acquire swapchain timeoutNs semaphore =>
    cases reply with
    | error result => exact (show t = s from effect) ▸ h
    | ok image =>
      obtain rfl : t = _ := effect
      exact h.mono (List.mem_cons_of_mem _) (List.Subset.refl _)
  | present queue wait swapchain image =>
    cases reply with
    | ok suboptimal =>
      obtain rfl : t = _ := effect
      exact h.mono id (List.subset_append_left _ _)
    | error result =>
      obtain rfl | rfl := effect
      · exact h
      · exact h.mono id (List.subset_append_left _ _)
  | _ => exact (show t = s from effect) ▸ h

end QueueState

open QueueState

/-- It goes on to be so through every call that spares fences. -/
theorem willSignal_step (step : orderly.step s c reply t) (spares : SparesFences c)
    (h : s.WillSignal fence) : t.WillSignal fence :=
  queueWorld_step (willSignal_lasting fence) (willSignal_lasting fence) step.2.2 h
    fun _ _ h effect => willSignal_effect spares h effect

/-- A new signaled fence is signaled. -/
theorem willSignal_made {made : Handle .fence}
    (step : orderly.step s (.create (.fence true)) (.ok made) t) : t.WillSignal made := by
  apply queueWorld_step (P := fun _ => True) (fun _ _ _ _ => trivial) (willSignal_lasting made)
    step.2.2 trivial
  rintro u v - ⟨-, -, rfl⟩
  exact .inl List.mem_cons_self

/-- Work that was accepted will signal its fence. -/
theorem willSignal_submitted {queue : Handle .queue} {work : Submission}
    (step : orderly.step s (.perform (.submit queue work)) (.ok ()) t) :
    t.WillSignal work.fence := by
  apply queueWorld_step (P := fun _ => True) (fun _ _ _ _ => trivial)
    (willSignal_lasting work.fence) step.2.2 trivial
  intro u v _ effect
  obtain rfl : v = _ := effect
  exact .inr ⟨work, by simp, rfl⟩

private theorem sparesFences_of_harmless {uploads : Bool} (spared : Harmless .null uploads c) :
    SparesFences c := by
  cases c with
  | create request =>
    cases request with
    | fence signaled => exact absurd rfl spared.1
    | _ => trivial
  | perform operation =>
    cases operation with
    | resetFence fence => exact spared
    | _ => trivial
  | _ => trivial

private theorem spares_null (step : orderly.step s c reply t) : Spares .null c reply := by
  obtain ⟨u, v, -, effect, -⟩ := step.2.2
  cases c with
  | create request =>
    cases request with
    | commandBuffer pool =>
      cases reply with
      | error result => trivial
      | ok buffer => exact effect.1
    | _ => trivial
  | _ => trivial

/-- Work beside the frames leaves the fence to be signaled. -/
theorem willSignal_of_harmless {α : Type} {p : Program Driver α} {uploads : Bool}
    {post : α → Unit → Prop} (kept : (harmless .null uploads).Keeps p () post)
    (h : s.WillSignal fence) : (free orderly).Keeps p s fun _ t => t.WillSignal fence := by
  refine (kept.transfer (D := free orderly) (fun _ s => s.WillSignal fence) ?_ h).mono
    fun _ t ⟨_, h, _⟩ => h
  intro _ s c h spared
  refine ⟨trivial, fun reply t step => ⟨(), spares_null step, ?_⟩⟩
  exact willSignal_step step (sparesFences_of_harmless spared) h

/-! ## What is live -/

/-- Work that finishes leaves alone what exists. -/
theorem QueueState.live_progress (progress : Progress s t) : t.live = s.live := by
  induction progress with
  | refl => rfl
  | tail _ finish ih =>
    obtain ⟨w, before, after, here⟩ := finish
    exact ih

/-- The book shows the objects that are live. -/
def Holdings.Matches (book : Holdings) (s : QueueState) : Prop := ∀ o, book.Exists o ↔ o ∈ s.live

variable {book : Holdings}

private theorem Holdings.Matches.absent (h : book.Matches s) {o : Object} :
    book.live o = none ↔ o ∉ s.live := by
  rw [← h o, Holdings.Exists]
  simp

private theorem Holdings.Matches.make (h : book.Matches s) (o : Object) (needs : List Object)
    {signaled : List Object} {pending : List Submission} :
    (book.make o needs).Matches ⟨o :: s.live, signaled, pending⟩ := by
  intro p
  rw [List.mem_cons, ← h p, Holdings.Exists, Holdings.Exists, Holdings.make]
  by_cases same : p = o
  · simp [same]
  · simp [same]

private theorem Holdings.Matches.drop (h : book.Matches s) (o : Object)
    {signaled : List Object} {pending : List Submission} :
    (book.drop o).Matches ⟨s.live.filter (· ≠ o), signaled, pending⟩ := by
  intro p
  rw [List.mem_filter, ← h p, Holdings.Exists, Holdings.Exists, Holdings.drop]
  by_cases same : p = o
  · simp [same]
  · simp [same]

private theorem Holdings.Matches.bind (h : book.Matches s) (o : Object) (memory : Handle .memory) :
    (book.bind o memory).Matches s := by
  intro p
  rw [← h p, Holdings.Exists, Holdings.Exists, Holdings.bind]
  by_cases same : p = o
  · simp [same]
  · simp [same]

private theorem matches_effect (h : book.Matches s) (foreign : c.ReportsForeign s.live reply)
    (effect : s.Effect c reply t) : ∃ after, book.Effect c reply after ∧ after.Matches t := by
  cases c with
  | create request =>
    cases reply with
    | error result => exact ⟨book, rfl, (show t = s from effect) ▸ h⟩
    | ok made =>
      obtain ⟨real, fresh, rfl⟩ := effect
      exact ⟨_, ⟨real, h.absent.mpr fresh, rfl⟩, h.make _ _⟩
  | release o => exact ⟨_, rfl, (show t = _ from effect) ▸ h.drop o⟩
  | freeCommands pool buffer => exact ⟨_, rfl, (show t = _ from effect) ▸ h.drop buffer.object⟩
  | swapchainImages swapchain =>
    cases reply with
    | error result => exact ⟨book, rfl, (show t = s from effect) ▸ h⟩
    | ok images =>
      obtain rfl : t = s := effect
      exact ⟨_, ⟨fun image mem => h.absent.mpr (foreign image mem), rfl⟩, h⟩
  | unmap memory => exact ⟨_, rfl, (show t = s from effect) ▸ h⟩
  | perform operation =>
    cases reply with
    | error result =>
      refine ⟨book, ?_, (show t = s from effect) ▸ h⟩
      cases operation <;> rfl
    | ok =>
      cases operation with
      | waitForFence fence timeoutNs => exact ⟨book, rfl, effect.2.2 ▸ h⟩
      | resetFence fence => exact ⟨book, rfl, (show t = _ from effect) ▸ h⟩
      | submit queue work => exact ⟨book, rfl, (show t = _ from effect) ▸ h⟩
      | queueIdle queue => exact ⟨book, rfl, effect.2 ▸ h⟩
      | deviceIdle => exact ⟨book, rfl, effect.2 ▸ h⟩
      | bindBuffer buffer memory offset =>
        exact ⟨_, rfl, (show t = s from effect) ▸ h.bind buffer.object memory⟩
      | bindImage image memory offset =>
        exact ⟨_, rfl, (show t = s from effect) ▸ h.bind image.object memory⟩
      | mapMemory memory offset bytes => exact ⟨_, rfl, (show t = s from effect) ▸ h⟩
      | _ => exact ⟨book, rfl, (show t = s from effect) ▸ h⟩
  | acquire swapchain timeoutNs semaphore =>
    cases reply with
    | ok image => exact ⟨book, rfl, (show t = _ from effect) ▸ h⟩
    | error result => exact ⟨book, rfl, (show t = s from effect) ▸ h⟩
  | present queue wait swapchain image =>
    cases reply with
    | ok suboptimal => exact ⟨book, rfl, (show t = _ from effect) ▸ h⟩
    | error result =>
      obtain rfl | rfl := effect
      · exact ⟨book, rfl, h⟩
      · exact ⟨book, rfl, h⟩
  | _ => exact ⟨book, rfl, (show t = s from effect) ▸ h⟩

/-- What keeps the book in order can be followed on an orderly driver. -/
theorem matches_of_custody {α : Type} {p : Program Driver α} {post : α → Holdings → Prop}
    (kept : custody.Keeps p book post) (start : book.Matches s) :
    (free orderly).Keeps p s fun a t => ∃ after, after.Matches t ∧ post a after := by
  refine kept.transfer Holdings.Matches ?_ start
  intro book s c h _
  refine ⟨trivial, fun reply t ⟨_, foreign, u, v, first, effect, later⟩ => ?_⟩
  have shown : book.Matches u := fun o => by rw [live_progress first, h o]
  have foreign : c.ReportsForeign u.live reply := by rwa [live_progress first]
  obtain ⟨after, written, h⟩ := matches_effect shown foreign effect
  exact ⟨after, written, fun o => by rw [live_progress later, h o]⟩

end PaintPresenter.Vulkan
