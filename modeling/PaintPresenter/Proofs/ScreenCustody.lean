import PaintPresenter.Proofs.Custody

/-!
# Custody of gate and screen

The gate and the screen list what they hold in the order in which they release it. Whatever fails
while they are made or made anew, what they do not list is gone.
-/

namespace PaintPresenter.Vulkan

open Contract

variable {s t : Holdings} {l a b c : List Entry} {rig : Rig}

/-- The one possible entry is that of a handle which is not null. -/
@[simp] theorem mem_unlessNull {kind : ObjectKind} {handle : Handle kind} {needs : List Object}
    {e : Entry} : e ∈ unlessNull handle needs ↔ handle ≠ .null ∧ e = ⟨handle.object, needs⟩ := by
  by_cases null : handle = .null
  · subst null
    simp
  · simp [unlessNull_of_ne null, null]

/-! ## The gate -/

/-- What a gate holds. -/
def FrameGate.entries (gate : FrameGate) : List Entry :=
  unlessNull gate.imageAvailable [] ++
    (unlessNull gate.renderFinished [] ++ unlessNull gate.inFlight [])

/-- An empty gate has no entries. -/
@[simp] theorem gate_entries_empty : ({} : FrameGate).entries = [] := rfl

/-- The objects of a gate are made from nothing but the device. -/
theorem gate_needs (gate : FrameGate) : ∀ e ∈ gate.entries, e.needs = [] := by
  intro e mem
  simp only [FrameGate.entries, List.mem_append, mem_unlessNull] at mem
  obtain ⟨-, rfl⟩ | ⟨-, rfl⟩ | ⟨-, rfl⟩ := mem
  · rfl
  · rfl
  · rfl

/-- No object of a gate supports all others. -/
theorem gate_upper (gate : FrameGate) : Upper gate.entries := by
  intro e mem
  simp only [FrameGate.entries, List.mem_append, mem_unlessNull] at mem
  obtain ⟨-, rfl⟩ | ⟨-, rfl⟩ | ⟨-, rfl⟩ := mem
  · simp [Handle.object]
  · simp [Handle.object]
  · simp [Handle.object]

-- An object that needs nothing may be released as late as one likes.
private theorem Holds.sink {e : Entry} (h : Holds s (e :: (b ++ c))) (alone : e.needs = [])
    (upper : Upper b) : Holds s (b ++ (e :: c)) := by
  apply Holds.swap (a := [e]) h
  · simp [WithinParts, alone]
  · exact upper

/-- A gate that is destroyed leaves nothing of its own. -/
theorem custody_gateDestroy {gate : FrameGate} (h : Holds s (gate.entries ++ l)) :
    (custody.behind GateCall.onDriver).Keeps (FrameGate.destroy gate) s
      fun out t => out.2 = {} ∧ Holds t l := by
  rw [FrameGate.entries, List.append_assoc, List.append_assoc] at h
  rw [keeps_gateDestroy]
  apply (h.releaseUnlessNull (by simp)).mono
  intro _ t h
  apply (h.releaseUnlessNull (by simp)).mono
  intro _ t h
  exact (h.releaseUnlessNull (by simp)).mono fun _ t h => ⟨rfl, h⟩

private theorem Holds.addToGate (gate : FrameGate) {after : FrameGate} {o : Object}
    (h : Holds s (⟨o, []⟩ :: (gate.entries ++ l)))
    (added : after.entries = gate.entries ++ [⟨o, []⟩]) : Holds s (after.entries ++ l) := by
  rw [added, List.append_assoc]
  exact h.sink rfl (gate_upper gate)

private theorem custody_fillGate (h : Holds s l) (equipped : Equipped l) :
    (custody.behind GateCall.onDriver).KeepsOp FrameGate.fill {} s
      (fun _ made t => Holds t (made.entries ++ l))
      fun _ made t => Holds t (made.entries ++ l) := by
  rw [Contract.keepsOp_fill]
  refine (h.createAlone equipped rfl (by simp)).mono (fun imageAvailable t made => ?_) fun _ _ => id
  obtain ⟨real_first, h⟩ := made
  have first : Holds t (({ imageAvailable } : FrameGate).entries ++ l) := by
    apply Holds.addToGate {} h
    simp [FrameGate.entries, unlessNull_of_ne real_first]
  have equipped_first := equipped.append ({ imageAvailable } : FrameGate).entries
  refine (first.createAlone equipped_first rfl (by simp)).mono (fun renderFinished t made => ?_)
    fun _ _ => id
  obtain ⟨real_second, h⟩ := made
  have second : Holds t (({ imageAvailable, renderFinished } : FrameGate).entries ++ l) := by
    apply Holds.addToGate _ h
    simp [FrameGate.entries, unlessNull_of_ne real_second]
  have equipped_second :=
    equipped.append ({ imageAvailable, renderFinished } : FrameGate).entries
  refine (second.createAlone equipped_second rfl (by simp)).mono (fun inFlight t made => ?_)
    fun _ _ => id
  obtain ⟨real_third, h⟩ := made
  apply Holds.addToGate _ h
  simp [FrameGate.entries, unlessNull_of_ne real_third]

/-- A gate is filled, or there is nothing of it. -/
theorem custody_fillOrDestroyGate (h : Holds s l) (equipped : Equipped l) :
    (custody.behind GateCall.onDriver).KeepsOp FrameGate.fillOrDestroy {} s
      (fun _ made t => Holds t (made.entries ++ l)) fun _ made t => made = {} ∧ Holds t l := by
  rw [Contract.keepsOp_fillOrDestroy]
  exact (custody_fillGate h equipped).mono (fun _ _ _ h => h) fun _ _ _ h => custody_gateDestroy h

/-- A gate that cannot be made anew holds nothing. -/
theorem custody_rearm {gate : FrameGate} (h : Holds s (gate.entries ++ l))
    (equipped : Equipped l) :
    (custody.behind GateCall.onDriver).KeepsOp FrameGate.rearm gate s
      (fun _ made t => Holds t (made.entries ++ l))
      fun _ made t => Holds t (made.entries ++ l) := by
  rw [Contract.keepsOp_rearm]
  apply (custody_gateDestroy h).mono
  rintro out t ⟨empty, h⟩
  rw [empty]
  apply (custody_fillOrDestroyGate h equipped).mono (fun _ _ _ h => h)
  rintro _ made t ⟨rfl, h⟩
  exact h

/-- The old fence is released when the new one is there. -/
theorem custody_replaceFence {gate : FrameGate} (h : Holds s (gate.entries ++ l))
    (equipped : Equipped l) :
    (custody.behind GateCall.onDriver).KeepsOp FrameGate.replaceFence gate s
      (fun _ after t => Holds t (after.entries ++ l))
      fun _ after t => Holds t (after.entries ++ l) := by
  rw [keepsOp_replaceFence]
  refine (h.createAlone (equipped.append _) rfl (by simp)).mono (fun fresh t made => ?_)
    fun _ _ h => h
  obtain ⟨real, h⟩ := made
  let semaphores := unlessNull gate.imageAvailable [] ++ unlessNull gate.renderFinished []
  have upper : Upper semaphores := fun e mem => gate_upper gate e <| by
    rw [FrameGate.entries, ← List.append_assoc]
    exact List.mem_append_left _ mem
  have alone : ∀ e ∈ semaphores, e.needs = [] := fun e mem => gate_needs gate e <| by
    rw [FrameGate.entries, ← List.append_assoc]
    exact List.mem_append_left _ mem
  have old_first :
      Holds t (unlessNull gate.inFlight [] ++ (⟨fresh.object, []⟩ :: semaphores ++ l)) := by
    apply Holds.swap
    · simpa [semaphores, FrameGate.entries] using h
    · intro e mem o needed
      obtain rfl | mem := List.mem_cons.mp mem
      · exact absurd needed List.not_mem_nil
      · rw [alone e mem] at needed
        exact absurd needed List.not_mem_nil
    · simp [Upper, Handle.object]
  apply (old_first.releaseUnlessNull (by simp)).mono
  intro _ t h
  have last := h.sink rfl upper
  simpa [semaphores, FrameGate.entries, unlessNull_of_ne real] using last

/-- Waiting for the previous frame changes nothing in the book. -/
theorem custody_waitForPrevious (h : Holds s l) (gate : FrameGate) (timeoutNs : Nat) :
    custody.KeepsTask (gate.waitForPrevious timeoutNs) s (fun _ t => Holds t l)
      fun _ t => Holds t l := by
  rw [FrameGate.waitForPrevious, keepsTask_bind]
  exact (h.perform (by trivial)).mono (fun _ t h => h.perform (by trivial)) fun _ t h => h

/-- An acquire may replace the fence in the gate, and changes nothing else. -/
theorem custody_acquire {gate : FrameGate} (h : Holds s (gate.entries ++ l))
    (equipped : Equipped l) (swapchain : Handle .swapchain) (timeoutNs : Nat) :
    custody.KeepsOp (FrameGate.acquire swapchain timeoutNs) gate s
      (fun _ after t => Holds t (after.entries ++ l))
      fun _ after t => Holds t (after.entries ++ l) := by
  rw [FrameGate.acquire, keepsOp_bind, keepsOp_get, keepsOp_bind, keepsOp_ofProgram, keeps_ask]
  refine ⟨trivial, fun reply t same => ?_⟩
  have h : Holds t (gate.entries ++ l) := same ▸ h
  cases reply with
  | ok image => exact h
  | error result =>
    rw [keepsOp_bind, keepsOp_onDriver]
    exact custody_replaceFence h equipped

/-- Submitting and presenting changes nothing in the book. -/
theorem custody_submitAndPresent (h : Holds s l) (queue : Handle .queue)
    (commands : Handle .commandBuffer) (swapchain : Handle .swapchain) (image : UInt32)
    (gate : FrameGate) :
    custody.KeepsTask (gate.submitAndPresent queue commands swapchain image) s
      (fun _ t => Holds t l) fun _ t => Holds t l := by
  rw [FrameGate.submitAndPresent, keepsTask_bind]
  refine (h.perform (by trivial)).mono (fun _ t h => ?_) fun _ t h => h
  rw [keepsTask_bind, keepsTask_lift, keeps_ask]
  refine ⟨trivial, fun reply t same => ?_⟩
  have h : Holds t l := same ▸ h
  cases reply with
  | ok suboptimal => exact h
  | error result =>
    by_cases late : result = .outOfDate
    · simpa [late] using h
    · simpa [late] using h

/-! ## The render targets -/

/-- A view of an image of a swapchain. -/
def viewEntry (swapchain : Handle .swapchain) (view : Handle .view) : Entry :=
  ⟨view.object, [swapchain.object]⟩

/-- Render pass and views of a set of targets. -/
def TargetSet.lower (set : TargetSet) (swapchain : Handle .swapchain) : List Entry :=
  unlessNull set.renderPass [] ++ set.views.map (viewEntry swapchain)

/-- The entries of some framebuffers, each made from what is listed below. -/
structure Framebuffers (handles : List (Handle .framebuffer)) (lower framebuffers : List Entry) :
    Prop where
  handles : objects framebuffers = handles.map Handle.object
  needs : ∀ e ∈ framebuffers, ∀ o ∈ e.needs, o ∈ objects lower

/-- A list shows what a set of targets on a swapchain holds. -/
def TargetSet.Lists (set : TargetSet) (swapchain : Handle .swapchain) (listed : List Entry) :
    Prop :=
  ∃ framebuffers, Framebuffers set.framebuffers (set.lower swapchain) framebuffers ∧
    listed = framebuffers ++ set.lower swapchain

/-- No view supports all other objects. -/
theorem views_upper (swapchain : Handle .swapchain) (views : List (Handle .view)) :
    Upper (views.map (viewEntry swapchain)) := by
  intro e mem
  obtain ⟨view, -, rfl⟩ := List.mem_map.mp mem
  simp [viewEntry, Handle.object]

/-- Nor does any framebuffer. -/
theorem framebuffers_upper {handles : List (Handle .framebuffer)} {lower framebuffers : List Entry}
    (made : Framebuffers handles lower framebuffers) : Upper framebuffers := by
  intro e mem
  have listed := mem_objects mem
  rw [made.handles] at listed
  obtain ⟨handle, -, same⟩ := List.mem_map.mp listed
  rw [← same]
  simp [Handle.object]

private theorem framebuffers_nil (lower : List Entry) : Framebuffers [] lower [] where
  handles := rfl
  needs _ mem := absurd mem List.not_mem_nil

private theorem custody_dropFramebuffers {handles : List (Handle .framebuffer)}
    {framebuffers : List Entry} (same : objects framebuffers = handles.map Handle.object)
    (h : Holds s (framebuffers ++ l)) :
    (custody.behind TargetCall.onDriver).Keeps (handles.forM TargetSet.dropFramebuffer) s
      fun _ t => Holds t l := by
  let Left (later : List (Handle .framebuffer)) (t : Holdings) : Prop :=
    ∃ left, objects left = later.map Handle.object ∧ Holds t (left ++ l)
  have loop : (custody.behind TargetCall.onDriver).Keeps (handles.forM TargetSet.dropFramebuffer) s
      fun _ t => Left [] t := by
    refine keeps_forM Left ?_ ⟨framebuffers, same, h⟩
    rintro handle later t ⟨left, same, h⟩
    rw [keeps_dropFramebuffer]
    cases left with
    | nil => exact absurd same (by simp)
    | cons e left =>
      obtain ⟨object, needs⟩ := e
      obtain ⟨rfl, rest⟩ := List.cons.inj same
      exact (Holds.release h (by simp)).mono fun _ t h => ⟨left, rest, h⟩
  apply loop.mono
  intro _ t left
  obtain ⟨left, none, h⟩ := left
  obtain rfl : left = [] := List.map_eq_nil_iff.mp none
  exact h

private theorem custody_dropViews {swapchain : Handle .swapchain} {views : List (Handle .view)}
    (h : Holds s (views.map (viewEntry swapchain) ++ l)) :
    (custody.behind TargetCall.onDriver).Keeps (views.forM TargetSet.dropView) s
      fun _ t => Holds t l := by
  refine keeps_forM (fun later t => Holds t (later.map (viewEntry swapchain) ++ l)) ?_ h
  intro view later t h
  rw [keeps_dropView]
  exact Holds.release h (by simp)

private theorem custody_targetsDestroy {set : TargetSet} {swapchain : Handle .swapchain}
    {listed : List Entry} (lists : set.Lists swapchain listed) (h : Holds s (listed ++ l)) :
    (custody.behind TargetCall.onDriver).Keeps (TargetSet.destroy set) s
      fun out t => out.2 = {} ∧ Holds t l := by
  obtain ⟨framebuffers, made, rfl⟩ := lists
  rw [TargetSet.lower, List.append_assoc, List.append_assoc] at h
  rw [keeps_targetsDestroy]
  apply (custody_dropFramebuffers made.handles h).mono
  intro _ t h
  apply (h.releaseUnlessNull (by simp)).mono
  intro _ t h
  exact (custody_dropViews h).mono fun _ t h => ⟨rfl, h⟩

private theorem custody_addViews {swapchain : Handle .swapchain} (h : Holds s l)
    (equipped : Equipped l) (present : swapchain.object ∈ objects l)
    {images : List (Handle .image)} (home : ∀ image ∈ images, s.home image = swapchain.object)
    (format : Format) :
    (custody.behind TargetCall.onDriver).KeepsOp (images.forM (TargetSet.addView format)) {} s
      (fun _ set t => set.renderPass = .null ∧ set.framebuffers = [] ∧
        Holds t (set.views.map (viewEntry swapchain) ++ l))
      fun _ set t => set.renderPass = .null ∧ set.framebuffers = [] ∧
        Holds t (set.views.map (viewEntry swapchain) ++ l) := by
  let Made (set : TargetSet) (t : Holdings) : Prop :=
    set.renderPass = .null ∧ set.framebuffers = [] ∧
      Holds t (set.views.map (viewEntry swapchain) ++ l)
  -- Views are no images, so the images that are left keep their home while views are made.
  let Left (later : List (Handle .image)) (set : TargetSet) (t : Holdings) : Prop :=
    Made set t ∧ ∀ image ∈ later, t.home image = swapchain.object
  have loop : (custody.behind TargetCall.onDriver).KeepsOp
      (images.forM (TargetSet.addView format)) {} s (fun _ set t => Left [] set t)
      fun _ set t => Made set t := by
    refine keepsOp_forM Left ?_ ⟨⟨rfl, rfl, h⟩, home⟩
    rintro image later set t ⟨⟨no_pass, no_framebuffers, h⟩, home⟩
    have made_from : t.needs (.view { image, format }) = [swapchain.object] := by
      rw [Holdings.needs, home image List.mem_cons_self]
    have created := h.createOnDevice (equipped.append _) made_from (by simp [present]) (by simp)
    rw [keepsOp_addView]
    refine created.mono (fun view u ⟨_, images, h'⟩ => ?_) ?_
    · refine ⟨⟨no_pass, no_framebuffers, ?_⟩, fun other mem => ?_⟩
      · rw [List.map_append, List.append_assoc]
        apply Holds.swap (a := [viewEntry swapchain view]) h'
        · simp [WithinParts, viewEntry, present]
        · exact views_upper swapchain set.views
      · rw [h.home_eq h' images (by simp [Handle.object])]
        exact home other (List.mem_cons_of_mem _ mem)
    · rintro _ _ rfl
      exact ⟨no_pass, no_framebuffers, h⟩
  exact loop.mono (fun _ set t left => left.1) fun _ set t made => made

private theorem custody_addFramebuffers {swapchain : Handle .swapchain} {set : TargetSet}
    {listed : List Entry} (lists : set.Lists swapchain listed) (h : Holds s (listed ++ l))
    (equipped : Equipped l) (pass : set.renderPass ≠ .null) {views : List (Handle .view)}
    (present : ∀ view ∈ views, view ∈ set.views) (extent : Extent) :
    (custody.behind TargetCall.onDriver).KeepsOp
      (views.forM (TargetSet.addFramebuffer extent)) set s
      (fun _ made t => ∃ listed, made.Lists swapchain listed ∧ Holds t (listed ++ l))
      fun _ made t => ∃ listed, made.Lists swapchain listed ∧ Holds t (listed ++ l) := by
  let Made (made : TargetSet) (t : Holdings) : Prop :=
    ∃ listed, made.Lists swapchain listed ∧ Holds t (listed ++ l)
  let Left (later : List (Handle .view)) (made : TargetSet) (t : Holdings) : Prop :=
    Made made t ∧ made.renderPass ≠ .null ∧ ∀ view ∈ later, view ∈ made.views
  have loop : (custody.behind TargetCall.onDriver).KeepsOp
      (views.forM (TargetSet.addFramebuffer extent)) set s (fun _ made t => Left [] made t)
      fun _ made t => Made made t := by
    refine keepsOp_forM Left ?_ ⟨⟨listed, lists, h⟩, pass, present⟩
    rintro view later set t ⟨⟨_, ⟨framebuffers, made, rfl⟩, h⟩, pass, present⟩
    have pass_listed : set.renderPass.object ∈ objects (set.lower swapchain) := by
      simp [TargetSet.lower, unlessNull_of_ne pass]
    have view_listed : view.object ∈ objects (set.lower swapchain) := by
      have listed : viewEntry swapchain view ∈ set.lower swapchain := by
        apply List.mem_append_right
        exact List.mem_map_of_mem (present view List.mem_cons_self)
      exact mem_objects listed
    let request : Creation := .framebuffer { renderPass := set.renderPass, view, extent }
    have made_from : t.needs request = [set.renderPass.object, view.object] := rfl
    have created := h.createOnDevice (equipped.append _) made_from
      (by simp [pass_listed, view_listed]) (by simp [request])
    rw [keepsOp_addFramebuffer]
    refine created.mono (fun framebuffer u ⟨_, _, h'⟩ => ?_) ?_
    · let e : Entry := ⟨framebuffer.object, [set.renderPass.object, view.object]⟩
      refine ⟨⟨_, ⟨framebuffers ++ [e], ⟨?_, ?_⟩, rfl⟩, ?_⟩, pass, fun other mem => ?_⟩
      · simp [made.handles, e]
      · intro f mem o needed
        obtain old | new := List.mem_append.mp mem
        · exact made.needs f old o needed
        · obtain rfl := List.mem_singleton.mp new
          obtain rfl | rfl := by simpa [e] using needed
          · exact pass_listed
          · exact view_listed
      · rw [List.append_assoc] at h'
        rw [List.append_assoc, List.append_assoc]
        apply Holds.swap (a := [e]) h'
        · simp [WithinParts, e, pass_listed, view_listed]
        · exact framebuffers_upper made
      · exact present other (List.mem_cons_of_mem _ mem)
    · rintro _ _ rfl
      exact ⟨_, ⟨framebuffers, made, rfl⟩, h⟩
  exact loop.mono (fun _ set t left => left.1) fun _ set t made => made

-- What cannot be made whole is still listed.
private theorem custody_fillTargets {swapchain : Handle .swapchain} (h : Holds s l)
    (equipped : Equipped l) (present : swapchain.object ∈ objects l)
    {images : List (Handle .image)} (home : ∀ image ∈ images, s.home image = swapchain.object)
    (format : Format) (extent : Extent) :
    (custody.behind TargetCall.onDriver).KeepsOp (TargetSet.fill images format extent) {} s
      (fun _ made t => ∃ listed, made.Lists swapchain listed ∧ Holds t (listed ++ l))
      fun _ made t => ∃ listed, made.Lists swapchain listed ∧ Holds t (listed ++ l) := by
  have only_views {set : TargetSet} {t : Holdings} (no_pass : set.renderPass = .null)
      (no_framebuffers : set.framebuffers = [])
      (h : Holds t (set.views.map (viewEntry swapchain) ++ l)) :
      ∃ listed, set.Lists swapchain listed ∧ Holds t (listed ++ l) := by
    refine ⟨_, ⟨[], ?_, rfl⟩, ?_⟩
    · rw [no_framebuffers]
      exact framebuffers_nil _
    · simpa [TargetSet.lower, no_pass] using h
  rw [keepsOp_fillTargets]
  apply (custody_addViews h equipped present home format).mono
  · rintro _ set t ⟨no_pass, no_framebuffers, h⟩
    refine (h.createAlone (equipped.append _) rfl (by simp)).mono (fun renderPass t made => ?_)
      fun _ t h => only_views no_pass no_framebuffers h
    obtain ⟨real, h⟩ := made
    let begun : TargetSet := { set with renderPass }
    have lists : begun.Lists swapchain (begun.lower swapchain) := by
      refine ⟨[], ?_, rfl⟩
      rw [show begun.framebuffers = [] from no_framebuffers]
      exact framebuffers_nil _
    have h : Holds t (begun.lower swapchain ++ l) := by
      simpa [TargetSet.lower, begun, unlessNull_of_ne real] using h
    exact custody_addFramebuffers lists h equipped real (fun _ mem => mem) extent
  · rintro _ set t ⟨no_pass, no_framebuffers, h⟩
    exact only_views no_pass no_framebuffers h

/-- Render targets that cannot be made whole are gone. -/
theorem custody_buildTargets {swapchain : Handle .swapchain} (h : Holds s l)
    (equipped : Equipped l) (present : swapchain.object ∈ objects l)
    {images : List (Handle .image)} (home : ∀ image ∈ images, s.home image = swapchain.object)
    (format : Format) (extent : Extent) :
    custody.KeepsTask
      (ExceptT.mk ((TargetSet.build images format extent).run.embed TargetCall.onDriver)) s
      (fun made t => ∃ listed, made.Lists swapchain listed ∧ Holds t (listed ++ l))
      fun _ t => Holds t l := by
  rw [keepsTask_build]
  apply (custody_fillTargets h equipped present home format extent).mono (fun _ _ _ h => h)
  rintro _ made t ⟨listed, lists, h⟩
  exact (custody_targetsDestroy lists h).mono fun _ _ h => h.2

/-! ## The screen -/

/-- A list shows what a screen on a surface holds. -/
def Screen.Lists (screen : Screen) (surface : Handle .surface) (listed : List Entry) : Prop :=
  ∃ targets, screen.targets.Lists screen.swapchain targets ∧
    listed = targets ++ unlessNull screen.swapchain [surface.object]

/-- A screen that holds nothing. -/
def Screen.Empty (screen : Screen) : Prop := screen.swapchain = .null ∧ screen.targets = {}

private theorem targets_lists_empty (swapchain : Handle .swapchain) :
    ({} : TargetSet).Lists swapchain [] :=
  ⟨[], framebuffers_nil _, rfl⟩

private theorem Screen.Empty.lists {screen : Screen} (empty : screen.Empty)
    (surface : Handle .surface) : screen.Lists surface [] := by
  obtain ⟨no_swapchain, no_targets⟩ := empty
  refine ⟨[], ?_, ?_⟩
  · rw [no_targets]
    exact targets_lists_empty _
  · rw [no_swapchain]
    rfl

/-- A screen that is destroyed is empty and leaves nothing. -/
theorem custody_screenDestroy {screen : Screen} {surface : Handle .surface} {listed : List Entry}
    (lists : screen.Lists surface listed) (h : Holds s (listed ++ l)) :
    custody.Keeps (Screen.destroy screen) s fun out t => out.2.Empty ∧ Holds t l := by
  obtain ⟨targets, lists, rfl⟩ := lists
  rw [List.append_assoc] at h
  rw [keeps_screenDestroy]
  apply (custody_targetsDestroy lists h).mono
  rintro out t ⟨no_targets, h⟩
  exact (h.releaseUnlessNull (by simp)).mono fun _ t h => ⟨⟨rfl, no_targets⟩, h⟩

private theorem lookup_reported {images : List (Handle .image)} {image : Handle .image}
    (mem : image ∈ images) (swapchain : Handle .swapchain)
    (earlier : List (Handle .image × Handle .swapchain)) :
    (images.map (·, swapchain) ++ earlier).lookup image = some swapchain := by
  induction images with
  | nil => exact absurd mem List.not_mem_nil
  | cons other later ih =>
    by_cases same : image = other
    · simp [same]
    · have mem := (List.mem_cons.mp mem).resolve_left same
      have differs : (image == other) = false := by simpa using same
      rw [List.map_cons, List.cons_append, List.lookup_cons, differs]
      exact ih mem

private theorem home_of_report {images : List (Handle .image)} {swapchain : Handle .swapchain}
    (foreign : ∀ image ∈ images, s.live image.object = none) :
    ∀ image ∈ images,
      Holdings.home { s with images := images.map (·, swapchain) ++ s.images } image =
        swapchain.object := by
  intro image mem
  have absent : ¬Holdings.Exists { s with images := images.map (·, swapchain) ++ s.images }
      image.object := by
    simp [Holdings.Exists, foreign image mem]
  rw [Holdings.home, if_neg absent, lookup_reported mem]
  rfl

private theorem Holds.report (h : Holds s l) (images : List (Handle .image × Handle .swapchain)) :
    Holds { s with images } l :=
  ⟨h.live, h.distinct, h.real, h.closed, h.ordered, h.unmapped, h.account⟩

private theorem custody_fillScreen {screen : Screen} (empty : screen.Empty) (h : Holds s l)
    (equipped : Equipped l) (present : rig.surface.object ∈ objects l) (requested : Extent) :
    custody.KeepsOp (Screen.fill rig requested) screen s
      (fun _ made t => ∃ listed, made.Lists rig.surface listed ∧ Holds t (listed ++ l))
      fun _ made t => ∃ listed, made.Lists rig.surface listed ∧ Holds t (listed ++ l) := by
  rw [keepsOp_screenFill]
  apply ((custody_answers l).settle rig requested h).mono
  · rintro request after t ⟨surface, ⟨swapchain, _, targets⟩, h⟩
    have empty : after.Empty := ⟨swapchain.trans empty.1, targets.trans empty.2⟩
    have made_from : t.needs (.swapchain request) = [rig.surface.object] := by
      rw [Holdings.needs, surface]
    have created := h.createOnDevice equipped made_from (by simp [present]) (by simp)
    refine created.mono (fun swapchain u ⟨real, _, h⟩ => ?_) ?_
    · have bare {made : Screen} {v : Holdings} (own : made.swapchain = swapchain)
          (none : made.targets = {})
          (h : Holds v (⟨swapchain.object, [rig.surface.object]⟩ :: l)) :
          ∃ listed, made.Lists rig.surface listed ∧ Holds v (listed ++ l) := by
        refine ⟨_, ⟨[], ?_, rfl⟩, ?_⟩
        · rw [none]
          exact targets_lists_empty _
        · simpa [own, unlessNull_of_ne real] using h
      rw [keepsTask_swapchainImages]
      refine ⟨trivial, ?_, ?_⟩
      · rintro images v ⟨foreign, rfl⟩
        have h := h.report (images.map (·, swapchain) ++ u.images)
        have equipped := equipped.cons ⟨swapchain.object, [rig.surface.object]⟩
        have built := custody_buildTargets h equipped (by simp) (home_of_report foreign)
          request.format.format request.extent
        apply built.mono
        · rintro made t ⟨targets, lists, h⟩
          refine ⟨_, ⟨targets, lists, rfl⟩, ?_⟩
          simpa [unlessNull_of_ne real] using h
        · intro _ t h
          exact bare rfl empty.2 h
      · rintro _ v rfl
        exact bare rfl empty.2 h
    · rintro _ _ rfl
      exact ⟨[], empty.lists rig.surface, h⟩
  · rintro _ after t ⟨⟨swapchain, _, targets⟩, h⟩
    have empty : after.Empty := ⟨swapchain.trans empty.1, targets.trans empty.2⟩
    exact ⟨[], empty.lists rig.surface, h⟩

/-- A screen that cannot be put up holds nothing. -/
theorem custody_fillOrDestroyScreen {screen : Screen} (empty : screen.Empty) (h : Holds s l)
    (equipped : Equipped l) (present : rig.surface.object ∈ objects l) (requested : Extent) :
    custody.KeepsOp (Screen.fillOrDestroy rig requested) screen s
      (fun _ made t => ∃ listed, made.Lists rig.surface listed ∧ Holds t (listed ++ l))
      fun _ made t => made.Empty ∧ Holds t l := by
  rw [keepsOp_screenFillOrDestroy]
  apply (custody_fillScreen empty h equipped present requested).mono (fun _ _ _ h => h)
  rintro _ made t ⟨listed, lists, h⟩
  exact custody_screenDestroy lists h

/-- A new screen holds what was made for it; a failure leaves nothing. -/
theorem custody_createScreen (h : Holds s l) (equipped : Equipped l)
    (present : rig.surface.object ∈ objects l) (requested : Extent) :
    custody.KeepsTask (Screen.create rig requested) s
      (fun made t => ∃ listed, made.Lists rig.surface listed ∧ Holds t (listed ++ l))
      fun _ t => Holds t l := by
  rw [keepsTask_screenCreate]
  have empty : ({ extent := requested } : Screen).Empty := ⟨rfl, rfl⟩
  have filled := custody_fillOrDestroyScreen empty h equipped present requested
  exact filled.mono (fun _ _ _ h => h) fun _ _ _ h => h.2

/-- A screen that was put up anew holds what was made for it, or is empty. -/
theorem custody_rebuildScreen {screen : Screen} {listed : List Entry}
    (lists : screen.Lists rig.surface listed) (h : Holds s (listed ++ l)) (equipped : Equipped l)
    (present : rig.surface.object ∈ objects l) (requested : Extent) :
    custody.KeepsOp (Screen.rebuild rig requested) screen s
      (fun _ made t => ∃ listed, made.Lists rig.surface listed ∧ Holds t (listed ++ l))
      fun _ made t => ∃ listed, made.Lists rig.surface listed ∧ Holds t (listed ++ l) := by
  rw [keepsOp_screenRebuild]
  apply (custody_screenDestroy lists h).mono
  rintro out t ⟨empty, h⟩
  apply (custody_fillOrDestroyScreen empty h equipped present requested).mono (fun _ _ _ h => h)
  exact fun _ made t ⟨empty, h⟩ => ⟨[], empty.lists rig.surface, h⟩

end PaintPresenter.Vulkan
