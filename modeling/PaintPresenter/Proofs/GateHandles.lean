import PaintPresenter.Proofs.Furnishing
import PaintPresenter.Proofs.Owners

/-!
# The handles of gates

Any number of gates on any device that hands out the names of new objects and may refuse to make
one. Whatever the gates do, and whatever the device refuses, what exists is what the gates name, and
nothing is released that does not exist.
-/

namespace PaintPresenter.Vulkan

open Contract

/-! ## The device -/

/-- What is known of a device that makes gates. -/
structure GateDevice where
  stock : Stock := {}
  signaled : List (Handle .fence) := []

namespace GateDevice

/-- What a call and its reply do. -/
def Effect (s : GateDevice) : (c : GateCall) → c.Reply → GateDevice → Prop
  | .newSemaphore, reply, t => s.stock.Creates .semaphore reply t.stock ∧ t.signaled = s.signaled
  | .newSignaledFence, reply, t =>
    s.stock.Creates (.fence true) reply t.stock ∧
      t.signaled = reply.toOption.toList ++ s.signaled
  | .dropSemaphore semaphore, (), t => t = { s with stock := s.stock.drop semaphore.object }
  | .dropFence fence, (), t =>
    t = ⟨s.stock.drop fence.object, s.signaled.filter (· ≠ fence)⟩

/-- Only what exists is released. -/
def Proper (s : GateDevice) : GateCall → Prop
  | .newSemaphore | .newSignaledFence => True
  | .dropSemaphore semaphore => s.stock.MayDrop semaphore.object
  | .dropFence fence => s.stock.MayDrop fence.object

/-- Fences are waited for, reset and signaled, but nothing is made or released. -/
def Used (s t : GateDevice) : Prop := t.stock = s.stock

end GateDevice

/-- The device as a keeper of its stock. It may refuse any request. -/
def gateDevice : Contract GateObjects GateDevice where
  step := GateDevice.Effect
  permits := GateDevice.Proper

/-! ## What gates do -/

/-- What may be done with a gate. -/
inductive GateDeed
  | replaceFence
  | rearm
  | destroy
  deriving DecidableEq, Repr

/-- Gates on a device. -/
def gateOwners : Ownership GateObjects FrameGate Unit GateDeed where
  found _ := FrameGate.create
  act
    | .replaceFence => FrameGate.replaceFence
    | .rearm => FrameGate.rearm
    | .destroy => .ofAction FrameGate.destroy

namespace FrameGate

/-- What a gate holds. -/
def items (gate : FrameGate) : List Item :=
  held gate.imageAvailable .semaphore ++
    (held gate.renderFinished .semaphore ++ held gate.inFlight (.fence true))

private theorem map_object_items (gate : FrameGate) :
    gate.items.map Item.object = gate.objects := by
  have apart : gate.objects =
      named gate.imageAvailable ++ (named gate.renderFinished ++ named gate.inFlight) := by
    rw [named, named, named, ← List.filter_append, ← List.filter_append]
    rfl
  rw [apart, items, List.map_append, List.map_append, map_object_held, map_object_held,
    map_object_held]

/-- The three objects of a gate are the last ones that were made, they exist, and the fence is
signaled. -/
structure Anew (gate : FrameGate) (s t : GateDevice) : Prop where
  whole : gate.Whole
  made : t.stock.made = gate.inFlight.object :: gate.renderFinished.object ::
    gate.imageAvailable.object :: s.stock.made
  live : ∀ o ∈ gate.objects, o ∈ t.stock.live
  signaled : gate.inFlight ∈ t.signaled

end FrameGate

variable {gate : FrameGate} {s t : GateDevice} {l base : List Item}

/-! ## Calls -/

private theorem stock_newSemaphore (h : s.stock.Lists l) :
    gateDevice.KeepsOp FrameGate.newSemaphore gate s
      (fun semaphore after t => after = gate ∧ semaphore ≠ .null ∧
        t.stock.Lists (⟨semaphore.object, .semaphore, []⟩ :: l) ∧
        t.stock.made = semaphore.object :: s.stock.made)
      fun _ after t => after = gate ∧ t.stock.Lists l := by
  refine (keepsOp_ofTask ..).mpr ⟨trivial, fun reply t step => ?_⟩
  obtain ⟨creates, -⟩ := step
  cases reply with
  | ok semaphore => exact ⟨rfl, creates.1, h.made creates, congrArg Stock.made creates.2.2⟩
  | error e =>
    have failed : t.stock = s.stock.fail := creates
    exact ⟨rfl, failed ▸ h.fail⟩

private theorem stock_newSignaledFence (h : s.stock.Lists l) :
    gateDevice.KeepsOp FrameGate.newSignaledFence gate s
      (fun fence after t => after = gate ∧ fence ≠ .null ∧ fence.object ∉ s.stock.live ∧
        t.stock.Lists (⟨fence.object, .fence true, []⟩ :: l) ∧
        t.stock.made = fence.object :: s.stock.made ∧ fence ∈ t.signaled)
      fun _ after t => after = gate ∧ t = { s with stock := s.stock.fail } := by
  refine (keepsOp_ofTask ..).mpr ⟨trivial, fun reply t step => ?_⟩
  obtain ⟨stock, fences⟩ := t
  obtain ⟨creates, rfl⟩ := step
  cases reply with
  | ok fence =>
    exact ⟨rfl, creates.1, creates.2.1, h.made creates, congrArg Stock.made creates.2.2,
      List.mem_cons_self⟩
  | error e =>
    obtain rfl : stock = s.stock.fail := creates
    exact ⟨rfl, rfl⟩

private theorem stock_dropSemaphore {semaphore : Handle .semaphore}
    (h : s.stock.Lists (held semaphore .semaphore ++ l)) :
    gateDevice.Keeps (FrameGate.dropSemaphore semaphore) s
      fun _ t => t.stock.Lists l ∧ t.stock.made = s.stock.made := by
  unfold FrameGate.dropSemaphore
  unfold held at h
  by_cases null : semaphore.isNull = true
  · rw [if_pos null] at h ⊢
    exact ⟨h, rfl⟩
  · rw [if_neg null] at h ⊢
    refine ⟨h.mayDrop List.mem_cons_self, ?_⟩
    rintro ⟨⟩ t rfl
    exact ⟨h.drop, rfl⟩

private theorem stock_dropFence {fence : Handle .fence}
    (h : s.stock.Lists (held fence (.fence true) ++ l)) :
    gateDevice.Keeps (FrameGate.dropFence fence) s
      fun _ t => t.stock.Lists l ∧ t.stock.made = s.stock.made ∧
        ∀ other ∈ s.signaled, other ≠ fence → other ∈ t.signaled := by
  unfold FrameGate.dropFence
  unfold held at h
  by_cases null : fence.isNull = true
  · rw [if_pos null] at h ⊢
    exact ⟨h, rfl, fun _ mem _ => mem⟩
  · rw [if_neg null] at h ⊢
    refine ⟨h.mayDrop List.mem_cons_self, ?_⟩
    rintro ⟨⟩ t rfl
    refine ⟨h.drop, rfl, fun other mem differs => ?_⟩
    exact List.mem_filter.mpr ⟨mem, decide_eq_true differs⟩

/-! ## Operations -/

private theorem stock_added {gate after : FrameGate} {item : Item} {s : Stock}
    (h : s.Lists (item :: (gate.items ++ base))) (added : after.items = gate.items ++ [item]) :
    s.Lists (after.items ++ base) := by
  rw [added, List.append_assoc]
  exact h.sink

private theorem live_of_gate {s : Stock} (h : s.Lists (gate.items ++ base)) :
    ∀ o ∈ gate.objects, o ∈ s.live := by
  intro o mem
  rw [h.live.mem_iff, List.map_append, gate.map_object_items]
  exact List.mem_append_left _ mem

private theorem stock_fill (h : s.stock.Lists base) :
    gateDevice.KeepsOp FrameGate.fill {} s
      (fun _ gate t => gate.Anew s t ∧ t.stock.Lists (gate.items ++ base))
      fun _ gate t => t.stock.Lists (gate.items ++ base) := by
  unfold FrameGate.fill
  simp only [keepsOp_bind, keepsOp_modify]
  have h : s.stock.Lists (({} : FrameGate).items ++ base) := h
  refine (stock_newSemaphore h).mono ?_ fun _ _ _ left => left.1 ▸ left.2
  rintro imageAvailable _ t ⟨rfl, first, h, made⟩
  have h : t.stock.Lists (({ imageAvailable } : FrameGate).items ++ base) :=
    stock_added h (by simp [FrameGate.items, held_of_ne first])
  refine (stock_newSemaphore h).mono ?_ fun _ _ _ left => left.1 ▸ left.2
  rintro renderFinished _ u ⟨rfl, second, h, made'⟩
  have h : u.stock.Lists (({ imageAvailable, renderFinished } : FrameGate).items ++ base) :=
    stock_added h (by simp [FrameGate.items, held_of_ne first, held_of_ne second])
  refine (stock_newSignaledFence h).mono ?_ ?_
  · rintro inFlight _ v ⟨rfl, third, -, h, made'', signaled⟩
    have h : v.stock.Lists (FrameGate.items ⟨imageAvailable, renderFinished, inFlight⟩ ++ base) :=
      stock_added h (by simp [FrameGate.items, held_of_ne first, held_of_ne second,
        held_of_ne third])
    refine ⟨⟨⟨first, second, third⟩, ?_, live_of_gate h, signaled⟩, h⟩
    rw [made'', made', made]
  · rintro _ _ _ ⟨rfl, rfl⟩
    exact h.fail

private theorem stock_destroy (h : s.stock.Lists (gate.items ++ base)) :
    gateDevice.Keeps (FrameGate.destroy gate) s fun out t =>
      out.2 = {} ∧ t.stock.Lists base ∧ t.stock.made = s.stock.made := by
  rw [FrameGate.items, List.append_assoc, List.append_assoc] at h
  unfold FrameGate.destroy
  simp only [keeps_bind]
  apply (stock_dropSemaphore h).mono
  rintro _ t ⟨h, made⟩
  apply (stock_dropSemaphore h).mono
  rintro _ u ⟨h, made'⟩
  apply (stock_dropFence h).mono
  rintro _ v ⟨h, made'', -⟩
  exact ⟨rfl, h, made''.trans (made'.trans made)⟩

private theorem stock_fillOrDestroy (h : s.stock.Lists base) :
    gateDevice.KeepsOp FrameGate.fillOrDestroy {} s
      (fun _ gate t => gate.Anew s t ∧ t.stock.Lists (gate.items ++ base))
      fun _ gate t => gate = {} ∧ t.stock.Lists base := by
  unfold FrameGate.fillOrDestroy
  simp only [keepsOp_bind, keepsOp_attempt, keepsOp_pure, keepsOp_ofAction, keepsOp_throw]
  refine (stock_fill h).mono (fun _ _ _ => id) fun _ gate t h => ?_
  exact (stock_destroy h).mono fun _ _ left => ⟨left.1, left.2.1⟩

private theorem stock_create (h : s.stock.Lists base) :
    gateDevice.KeepsTask FrameGate.create s
      (fun gate t => gate.Anew s t ∧ t.stock.Lists (gate.items ++ base))
      fun _ t => t.stock.Lists base := by
  unfold FrameGate.create
  refine (keeps_bind ..).mpr (keeps_run.mpr ?_)
  exact (stock_fillOrDestroy h).mono (fun _ _ _ => id) fun _ _ _ => And.right

private theorem stock_rearm (h : s.stock.Lists (gate.items ++ base)) :
    gateDevice.KeepsOp FrameGate.rearm gate s
      (fun _ after t => after.Anew s t ∧ t.stock.Lists (after.items ++ base))
      fun _ after t => after = {} ∧ t.stock.Lists base := by
  unfold FrameGate.rearm
  simp only [keepsOp_bind, keepsOp_log, keepsOp_ofAction]
  apply (stock_destroy h).mono
  rintro ⟨_, _⟩ t ⟨rfl, h, made⟩
  refine (stock_fillOrDestroy h).mono ?_ fun _ _ _ => id
  rintro _ after u ⟨anew, h⟩
  exact ⟨⟨anew.whole, made ▸ anew.made, anew.live, anew.signaled⟩, h⟩

/-- The fence of a gate after it was replaced. -/
structure FrameGate.Replaces (after gate : FrameGate) (s t : GateDevice) : Prop where
  others : after = { gate with inFlight := after.inFlight }
  real : after.inFlight ≠ .null
  new : after.inFlight.object ∉ s.stock.live
  live : after.inFlight.object ∈ t.stock.live
  signaled : after.inFlight ∈ t.signaled
  gone : gate.inFlight ≠ .null → gate.inFlight.object ∉ t.stock.live

private theorem stock_replaceFence (h : s.stock.Lists (gate.items ++ base)) :
    gateDevice.KeepsOp FrameGate.replaceFence gate s
      (fun _ after t => after.Replaces gate s t ∧ t.stock.Lists (after.items ++ base))
      fun _ after t => after = gate ∧ t = { s with stock := s.stock.fail } := by
  unfold FrameGate.replaceFence
  simp only [keepsOp_bind, keepsOp_log, keepsOp_get, keepsOp_ofProgram, keepsOp_modify]
  refine (stock_newSignaledFence h).mono ?_ fun _ _ _ => id
  rintro fresh gate t ⟨rfl, real, new, h', -, signaled⟩
  let semaphores := held gate.imageAvailable .semaphore ++ held gate.renderFinished .semaphore
  let rest := (⟨fresh.object, .fence true, []⟩ :: semaphores) ++ base
  have old_first : t.stock.Lists (held gate.inFlight (.fence true) ++ rest) := by
    apply Stock.Lists.swap
    simpa [semaphores, FrameGate.items] using h'
  have absent (old : gate.inFlight ≠ .null) : gate.inFlight.object ∉ rest.map Item.object := by
    have distinct := old_first.distinct
    rw [held_of_ne old] at distinct
    exact (List.nodup_cons.mp distinct).1
  have other : fresh ≠ gate.inFlight := by
    rintro rfl
    exact absent real List.mem_cons_self
  apply (stock_dropFence old_first).mono
  rintro _ u ⟨h, -, kept⟩
  have listed : u.stock.Lists (({ gate with inFlight := fresh } : FrameGate).items ++ base) := by
    have last := h.sink
    simpa [semaphores, FrameGate.items, held_of_ne real] using last
  have gone (old : gate.inFlight ≠ .null) : gate.inFlight.object ∉ u.stock.live := fun mem =>
    absent old (h.live.mem_iff.mp mem)
  refine ⟨⟨rfl, real, new, ?_, kept fresh signaled other, gone⟩, listed⟩
  exact h.live.mem_iff.mpr List.mem_cons_self

/-! ## Any number of gates -/

/-- A gate owns what it names. -/
def FrameGate.Owns (gate : FrameGate) (own : List Item) : Prop := gate.items = own

private theorem FrameGate.Owns.map_object {own : List Item} (owns : gate.Owns own) :
    own.map Item.object = gate.objects := by
  obtain rfl : gate.items = own := owns
  exact gate.map_object_items

private theorem gate_accounts :
    gateOwners.Accounts gateDevice GateDevice.stock FrameGate.Owns where
  found h := (stock_create h).mono (fun gate _ made => ⟨gate.items, rfl, made.2⟩) fun _ _ h => h
  act {deed gate s own base} owns h := by
    obtain rfl : gate.items = own := owns
    cases deed with
    | replaceFence =>
      refine (stock_replaceFence h).mono (fun _ after _ done => ⟨after.items, rfl, done.2⟩) ?_
      rintro _ _ _ ⟨rfl, rfl⟩
      exact ⟨_, rfl, h.fail⟩
    | rearm =>
      refine (stock_rearm h).mono (fun _ after _ done => ⟨after.items, rfl, done.2⟩) ?_
      rintro _ _ _ ⟨rfl, h⟩
      exact ⟨[], rfl, h⟩
    | destroy =>
      refine (keepsOp_ofAction _).mpr ((stock_destroy h).mono ?_)
      rintro ⟨_, _⟩ _ ⟨rfl, h, -⟩
      exact ⟨[], rfl, h⟩

/-- What becomes of a gate in each of its operations, whatever the device refuses. -/
structure FrameGate.Conducts (gate : FrameGate) (s : GateDevice) : Prop where
  proper : ∀ deed c t, ((gateOwners.act deed).run gate).Makes gateDevice.toWorld s c t → t.Proper c
  replaced : ∀ after t, (FrameGate.replaceFence.run gate).Ends gateDevice.toWorld s
    (.ok (), after) t → after.Replaces gate s t
  unreplaced : ∀ e after t, (FrameGate.replaceFence.run gate).Ends gateDevice.toWorld s
    (.error e, after) t → after = gate ∧ t = { s with stock := s.stock.fail }
  rearmed : ∀ after t, (FrameGate.rearm.run gate).Ends gateDevice.toWorld s (.ok (), after) t →
    after.Anew s t
  unarmed : ∀ e after t, (FrameGate.rearm.run gate).Ends gateDevice.toWorld s
    (.error e, after) t → after = {} ∧ (gate.objects ++ t.stock.live).Perm s.stock.live
  destroyed : ∀ out t, (FrameGate.destroy gate).Ends gateDevice.toWorld s out t →
    out.2 = {} ∧ (gate.objects ++ t.stock.live).Perm s.stock.live

private theorem live_without {s t : Stock} (h : s.Lists (gate.items ++ base))
    (left : t.Lists base) : (gate.objects ++ t.live).Perm s.live := by
  have listed := h.live
  rw [List.map_append, gate.map_object_items] at listed
  exact (left.live.append_left _).trans listed.symm

private theorem conducts_of_owned {gates : List FrameGate}
    (owned : Owned FrameGate.Owns gates s.stock) (mem : gate ∈ gates) : gate.Conducts s := by
  obtain ⟨_, base, rfl, h⟩ := owned.of_mem mem
  constructor
  case proper => exact fun deed c t makes => gate_accounts.permits_act owned mem makes
  case replaced => exact fun after t ends => ((stock_replaceFence h).ends_ok ends).1
  case unreplaced => exact fun e after t ends => (stock_replaceFence h).ends_error ends
  case rearmed => exact fun after t ends => ((stock_rearm h).ends_ok ends).1
  case unarmed =>
    intro e after t ends
    obtain ⟨empty, left⟩ := (stock_rearm h).ends_error ends
    exact ⟨empty, live_without h left⟩
  case destroyed =>
    intro out t ends
    obtain ⟨empty, left, -⟩ := (stock_destroy h).ends ends
    exact ⟨empty, live_without h left⟩

/-- Whatever gates on a device do one after the other, and whatever the device refuses, exactly what
the gates name exists, each object under a name of its own, and everything else was released as
often as it was made. No call releases what does not exist or what null names. A gate that cannot be
made leaves nothing behind, and one that is made or armed again has three new objects and a signaled
fence. A fence is replaced by a new signaled one while the semaphores stay, or nothing changes. A
gate that cannot be armed again has nothing left, and neither has one that is destroyed. -/
theorem gates_name_what_exists {gates : List FrameGate} {s : GateDevice}
    (reached : gateOwners.Reaches gateDevice.toWorld GateDevice.Used {} gates s) :
    (s.stock.live.Perm (gates.flatMap FrameGate.objects) ∧ s.stock.live.Nodup ∧
      s.stock.made.Perm (s.stock.released ++ s.stock.live)) ∧
    (∀ c t, FrameGate.create.run.Makes gateDevice.toWorld s c t → t.Proper c) ∧
    (∀ e t, FrameGate.create.run.Ends gateDevice.toWorld s (.error e) t →
      t.stock.live.Perm s.stock.live) ∧
    (∀ gate t, FrameGate.create.run.Ends gateDevice.toWorld s (.ok gate) t → gate.Anew s t) ∧
    ∀ gate ∈ gates, gate.Conducts s := by
  have owned := gate_accounts.owned (fun _ _ same => same) Stock.lists_empty reached
  have ⟨_, _, h⟩ := owned
  refine ⟨⟨owned.live FrameGate.Owns.map_object, h.nodup, h.balance⟩, fun c t makes => ?_,
    fun e t ends => ?_, fun gate t ends => ?_, fun gate mem => conducts_of_owned owned mem⟩
  · exact (stock_create h).permits makes
  · exact ((stock_create h).ends_error ends).live.trans h.live.symm
  · exact ((stock_create h).ends_ok ends).1

/-! ## A device that refuses now and then -/

/-- Refuses some of the objects that it is asked for. -/
def GateDevice.ration (refused : List Nat) :
    (c : GateCall) → GateDevice → Except Fault c.Reply × GateDevice
  | .newSemaphore, s =>
    let (reply, stock) :=
      s.stock.ration refused (GraphicsError.driver "vkCreateSemaphore" ⟨-1⟩) .semaphore
    (reply, { s with stock })
  | .newSignaledFence, s =>
    let (reply, stock) :=
      s.stock.ration refused (GraphicsError.driver "vkCreateFence" ⟨-1⟩) (.fence true)
    (reply, ⟨stock, (reply.toOption.bind Except.toOption).toList ++ s.signaled⟩)
  | .dropSemaphore semaphore, s =>
    (.ok (), { s with stock := s.stock.drop semaphore.object })
  | .dropFence fence, s =>
    (.ok (), ⟨s.stock.drop fence.object, s.signaled.filter (· ≠ fence)⟩)

private theorem gateDevice_allows_ration (refused : List Nat) :
    gateDevice.Allows (GateDevice.ration refused) := by
  intro c s reply answered
  cases c with
  | newSemaphore => exact ⟨Stock.creates_ration answered, rfl⟩
  | newSignaledFence =>
    refine ⟨Stock.creates_ration answered, ?_⟩
    simp only [GateDevice.ration] at answered ⊢
    rw [answered]
    rfl
  | dropSemaphore semaphore => exact rfl
  | dropFence fence => exact rfl

/-- The gate that is made where the fifth object is refused. -/
def rationedGate : Program.Run GateDevice (Except GraphicsError FrameGate) :=
  FrameGate.create.run.run (GateDevice.ration [5]) {}

/-- What becomes of it when it is armed again. -/
def rationedRearm : Program.Run GateDevice (Except GraphicsError Unit × FrameGate) :=
  (FrameGate.rearm.run ⟨⟨1⟩, ⟨2⟩, ⟨3⟩⟩).run (GateDevice.ration [5]) rationedGate.state

/-- What becomes of it when it is armed once more. -/
def rationedRearmAgain : Program.Run GateDevice (Except GraphicsError Unit × FrameGate) :=
  (FrameGate.rearm.run {}).run (GateDevice.ration [5]) rationedRearm.state

/-- A gate whose rearming was refused is empty, and rearming it again makes it anew. -/
theorem gates_name_what_exists_after_refusal :
    ∃ s t : GateDevice, gateOwners.Reaches gateDevice.toWorld GateDevice.Used {} [{}] s ∧
      s.stock.live = [] ∧ s.stock.made.length = 4 ∧
      (FrameGate.rearm.run {}).Ends gateDevice.toWorld s (.ok (), ⟨⟨6⟩, ⟨7⟩, ⟨8⟩⟩) t ∧
      FrameGate.Anew ⟨⟨6⟩, ⟨7⟩, ⟨8⟩⟩ s t := by
  have allows := gateDevice_allows_ration [5]
  have created : FrameGate.create.run.Ends gateDevice.toWorld {} (.ok ⟨⟨1⟩, ⟨2⟩, ⟨3⟩⟩)
      rationedGate.state := allows.ends rfl
  have refused : (FrameGate.rearm.run ⟨⟨1⟩, ⟨2⟩, ⟨3⟩⟩).Ends gateDevice.toWorld rationedGate.state
      (.error (.driver "vkCreateSemaphore" ⟨-1⟩), {}) rationedRearm.state := allows.ends rfl
  have repaired : (FrameGate.rearm.run {}).Ends gateDevice.toWorld rationedRearm.state
      (.ok (), ⟨⟨6⟩, ⟨7⟩, ⟨8⟩⟩) rationedRearmAgain.state := allows.ends rfl
  have armed : gateOwners.Reaches gateDevice.toWorld GateDevice.Used {}
      ([] ++ ⟨⟨1⟩, ⟨2⟩, ⟨3⟩⟩ :: []) rationedGate.state := .found () .start created
  have reached : gateOwners.Reaches gateDevice.toWorld GateDevice.Used {}
      ([] ++ ({} : FrameGate) :: []) rationedRearm.state := .acted .rearm armed refused
  obtain ⟨⟨live, -⟩, -, -, -, conducts⟩ := gates_name_what_exists reached
  have anew := (conducts {} List.mem_cons_self).rearmed _ _ repaired
  exact ⟨rationedRearm.state, rationedRearmAgain.state, reached, live.eq_nil, rfl, repaired, anew⟩

end PaintPresenter.Vulkan
