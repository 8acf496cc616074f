import PaintPresenter.Proofs.FrameGrammar

/-!
# Sizes that a window asks for

A window asks for one size after the other; the renderer keeps the last one until the next frame
and rebuilds its stack at it. On a stack whose size changes with successful rebuilds only, no order
of requests, frames and failures loses or misapplies it: `resize_converges` says that the last size
is the one in use or the one that is pending, and what this means for frames and rebuilds.
-/

namespace PaintPresenter

variable {τ ρ γ α : Type}

/-! ## The size of a stack -/

/-- What a call and its reply say of the size before and after it: a rebuild may change it. -/
def SizeRule : (call : GraphicsCall τ) → call.Reply ρ → (before after : Extent) → Prop
  | .extent, reply, before, after => reply = before ∧ after = before
  | .rebuild _, _, _, _ => True
  | _, _, before, after => after = before

/-- The stacks of a world report their size and keep it between rebuilds. -/
def Program.World.KeepsSize (W : Program.World (Graphics τ ρ) γ) (size : γ → Extent) : Prop :=
  ∀ s call reply t, W.step s call reply t → SizeRule call reply (size s) (size t)

/-- A rebuild gives the stacks of a world the size that it is made at, unless it fails. -/
structure Program.World.Resizes (W : Program.World (Graphics τ ρ) γ) (size : γ → Extent) :
    Prop where
  keeps : W.KeepsSize size
  rebuilt : ∀ s extent t, W.step s (.rebuild extent) (.ok ()) t → size t = extent
  notRebuilt : ∀ s extent e t, W.step s (.rebuild extent) (.error e) t → size t = size s

private theorem Program.World.KeepsSize.same {W : Program.World (Graphics τ ρ) γ}
    {size : γ → Extent} (keeps : W.KeepsSize size) {s t : γ} {call : GraphicsCall τ}
    {reply : call.Reply ρ} (step : W.step s call reply t)
    (other : ∀ extent, call ≠ .rebuild extent) : size t = size s := by
  have rule := keeps s call reply t step
  cases call with
  | extent => exact rule.2
  | rebuild extent => exact absurd rfl (other extent)
  | _ => exact rule

/-! ## Requests that have nothing to do with sizes -/

/-- A stack that replies what it likes and must not be rebuilt. -/
def unrebuilt (τ ρ : Type) : Contract (Graphics τ ρ) Unit where
  toWorld := anyStack τ ρ
  permits _ call := ∀ extent, call ≠ .rebuild extent

namespace Renderer

/-- The request neither asks for a size nor begins a frame. -/
def Request.Sizeless : Request → Prop
  | .requestSize _ => False
  | .beginFrame => False
  | _ => True

end Renderer

namespace Contract

open Renderer

variable {r : Renderer τ}

/-- The contract permits every call but a rebuild. -/
@[simp] theorem unrebuilt_permits (s : Unit) (call : GraphicsCall τ) :
    (unrebuilt τ ρ).permits s call ↔ ∀ extent, call ≠ .rebuild extent := Iff.rfl

/-- The contract asks nothing of a reply. -/
@[simp] theorem unrebuilt_step (s t : Unit) (call : GraphicsCall τ) (reply : call.Reply ρ) :
    (unrebuilt τ ρ).step s call reply t ↔ True := Iff.rfl

private theorem upload_unrebuilt (pixels : PixelBuffer) :
    (unrebuilt τ ρ).KeepsOp (upload pixels) r ()
      (fun _ r' _ => r'.pendingSize = r.pendingSize)
      fun _ r' _ => r'.pendingSize = r.pendingSize := by
  rw [keepsOp_upload]
  by_cases closed : r.closed = true
  · simp [closed]
  by_cases busy : r.active.isSome = true
  · simp [closed, busy]
  rw [if_neg closed, if_neg busy, keepsOp_heldUpload]
  cases r.texture.current with
  | none => simp
  | some current =>
    obtain ⟨texture, size⟩ := current
    by_cases same : size = pixels.extent
    · simp [same]
    · simp [same]

/-- Requests that have nothing to do with sizes keep the pending one and do not rebuild. -/
theorem perform_unrebuilt {request : Request} (sizeless : request.Sizeless) :
    (unrebuilt τ ρ).Keeps (perform request r) () fun out _ =>
      out.2.pendingSize = r.pendingSize := by
  cases request with
  | requestSize extent => exact sizeless.elim
  | beginFrame => exact sizeless.elim
  | endFrame =>
    rw [perform, keeps_ignoring, keepsOp_endFrame]
    cases r.active with
    | none => rfl
    | some image => simp
  | upload pixels => exact keeps_ignoring.mpr (upload_unrebuilt pixels)
  | uploadPaint frame =>
    rw [perform, keeps_ignoring, uploadPaint, keepsOp_bind, keepsOp_ofResult]
    cases frame.pixels with
    | ok pixels => exact upload_unrebuilt pixels
    | error e => rfl
  | setClearColor color => rfl
  | binding =>
    rw [perform, keeps_bind, keeps_renderer_binding]
    cases r.texture.current with
    | none => rfl
    | some current => simp
  | shutdown =>
    rw [perform, keeps_ignoring, keepsOp_shutdown]
    by_cases closed : r.closed = true
    · simp [closed]
    rw [if_neg closed]
    simp only [keeps_clear]
    cases r.texture.current with
    | none => simp
    | some current => simp

/-- What is promised where nothing is rebuilt is promised by every contract that allows all other
calls, together with what those calls keep. -/
theorem keeps_of_unrebuilt {C : Contract (Graphics τ ρ) γ} {p : Program (Graphics τ ρ) α}
    {s : γ} {post : α → Prop} (kept : (unrebuilt τ ρ).Keeps p () fun a _ => post a)
    (Kept : γ → Prop)
    (stays : ∀ s call, Kept s → (∀ extent, call ≠ .rebuild extent) →
      C.permits s call ∧ ∀ reply t, C.step s call reply t → Kept t)
    (start : Kept s) : C.Keeps p s fun a t => post a ∧ Kept t := by
  have moved := kept.transfer (D := C) (u := s) (fun _ s => Kept s) ?_ start
  · apply moved.mono
    rintro a t ⟨-, kept, promised⟩
    exact ⟨promised, kept⟩
  · intro _ s call kept other
    obtain ⟨permitted, after⟩ := stays s call kept other
    exact ⟨permitted, fun reply t step => ⟨(), trivial, after reply t step⟩⟩

/-- Requests that have nothing to do with sizes keep the pending one and the one in use. -/
theorem keeps_of_sizeless {C : Contract (Graphics τ ρ) γ} {size : γ → Extent}
    (keeps : C.KeepsSize size) (permits : ∀ s call, (∀ extent, call ≠ .rebuild extent) →
      C.permits s call) {s : γ} {request : Request} (sizeless : request.Sizeless) :
    C.Keeps (perform request r) s fun out t =>
      out.2.pendingSize = r.pendingSize ∧ size t = size s := by
  refine keeps_of_unrebuilt (perform_unrebuilt sizeless) (fun t => size t = size s)
    (fun t call sized other => ⟨permits t call other, fun reply u step => ?_⟩) rfl
  exact (keeps.same step other).trans sized

end Contract

/-! ## Frames without pixels -/

namespace Renderer

variable {r : Renderer τ}

/-- A frame that is begun now makes no call and changes nothing: it is skipped, or refused if
another one is under way or the renderer was shut down. -/
def StandsStill (ρ : Type) (r : Renderer τ) : Prop :=
  (r.Idle → (beginFrame : Task τ ρ _).run r = .done (.ok .skipped, r)) ∧
    (¬r.Idle → Refuses (beginFrame : Task τ ρ _) r)

/-- While a size without pixels is pending, frames stand still. -/
theorem standsStill_of_minimized (minimized : r.minimized = true) : r.StandsStill ρ := by
  constructor
  · rintro ⟨open_, inactive⟩
    unfold beginFrame
    rw [run_get_bind, open_, inactive, minimized]
    rfl
  · intro taken
    cases closed : r.closed with
    | true =>
      unfold Refuses beginFrame
      rw [run_get_bind, closed]
      exact ⟨_, rfl⟩
    | false =>
      cases busy : r.active with
      | none => exact absurd ⟨closed, busy⟩ taken
      | some image => exact refuses_beginFrame busy

/-- If the request asks for a size, then for one that has no pixels and is not in use. -/
def Request.Shrinks (inUse : Extent) : Request → Prop
  | .requestSize extent => extent.isEmpty = true ∧ extent ≠ inUse
  | _ => True

end Renderer

namespace Contract

open Renderer

variable {W : Program.World (Graphics τ ρ) γ} {size : γ → Extent} {r : Renderer τ} {s : γ}

private theorem requestSize_shrinks (keeps : W.KeepsSize size) {extent : Extent}
    (shrinks : (Request.requestSize extent).Shrinks (size s)) :
    (free W).Keeps (requestSize extent r) s fun out t =>
      out.2.minimized = true ∧ size t = size s := by
  obtain ⟨empty, unused⟩ := shrinks
  rw [keeps_requestSize, keeps_extent]
  refine ⟨trivial, fun current t asked => ?_⟩
  obtain ⟨rfl, same⟩ := keeps _ _ _ _ asked
  refine ⟨?_, same⟩
  simp [minimized, unused, empty]

private theorem perform_shrinks (keeps : W.KeepsSize size) (minimized : r.minimized = true)
    {request : Request} (shrinks : request.Shrinks (size s)) :
    (free W).Keeps (perform request r) s fun out t =>
      out.2.minimized = true ∧ size t = size s := by
  by_cases sizeless : request.Sizeless
  · apply (keeps_of_sizeless (C := free W) keeps (fun _ _ _ => trivial) sizeless).mono
    rintro ⟨_, r'⟩ t ⟨same, sized⟩
    refine ⟨?_, sized⟩
    rw [Renderer.minimized, same]
    exact minimized
  · cases request with
    | requestSize extent => exact requestSize_shrinks keeps shrinks
    | beginFrame =>
      rw [perform, keeps_ignoring, keepsOp_beginFrame]
      by_cases closed : r.closed = true
      · simp [closed, minimized]
      by_cases busy : r.active.isSome = true
      · simp [closed, busy, minimized]
      simp [closed, busy, minimized]
    | _ => exact absurd trivial sizeless

private theorem serve_shrinks (keeps : W.KeepsSize size) (minimized : r.minimized = true)
    {requests : List Request} (shrinks : ∀ request ∈ requests, request.Shrinks (size s)) :
    (free W).Keeps (serve requests r) s fun out _ => out.2.minimized = true := by
  induction requests generalizing r s with
  | nil => exact minimized
  | cons request later ih =>
    rw [serve, keeps_bind]
    apply (perform_shrinks keeps minimized (shrinks _ List.mem_cons_self)).mono
    rintro ⟨_, r'⟩ t ⟨minimized, same⟩
    refine ih minimized fun other mem => ?_
    rw [same]
    exact shrinks other (List.mem_cons_of_mem _ mem)

/-- While only sizes without pixels are asked for, and none that is in use, one is pending. -/
theorem minimized_of_shrinks (keeps : W.KeepsSize size) {extent : Extent} {later : List Request}
    (shrinks : ∀ request ∈ .requestSize extent :: later, request.Shrinks (size s)) :
    (free W).Keeps (serve (.requestSize extent :: later) r) s fun out _ =>
      out.2.minimized = true := by
  rw [serve, keeps_bind]
  apply (requestSize_shrinks keeps (shrinks _ List.mem_cons_self)).mono
  rintro ⟨_, r'⟩ t ⟨minimized, same⟩
  refine serve_shrinks keeps minimized fun other mem => ?_
  rw [same]
  exact shrinks other (List.mem_cons_of_mem _ mem)

end Contract

/-! ## The last size -/

namespace Renderer

/-- The last size that requests ask for, if there is one. -/
def lastSize (start : Extent) : List Request → Extent
  | [] => start
  | .requestSize extent :: later => lastSize extent later
  | _ :: later => lastSize start later

private theorem lastSize_cons (start : Extent) (request : Request) (later : List Request) :
    lastSize start (request :: later) = lastSize (lastSize start [request]) later := by
  cases request <;> rfl

private theorem lastSize_of_sizeless {start : Extent} {request : Request}
    (sizeless : request.Sizeless) : lastSize start [request] = start := by
  cases request with
  | requestSize extent => exact sizeless.elim
  | _ => rfl

/-- The stack has pixels, and the size that is wanted is in use or pending. -/
def Converges (r : Renderer τ) (wanted current : Extent) : Prop :=
  current.isEmpty = false ∧
    (r.pendingSize = none ∧ current = wanted ∨ r.pendingSize = some wanted ∧ wanted ≠ current)

variable {r : Renderer τ} {wanted current : Extent}

private theorem Converges.of_settled (settled : r.pendingSize = none) (inUse : current = wanted)
    (pixels : current.isEmpty = false) : r.Converges wanted current :=
  ⟨pixels, .inl ⟨settled, inUse⟩⟩

private theorem Converges.of_same {r' : Renderer τ} (converges : r.Converges wanted current)
    (same : r'.pendingSize = r.pendingSize) : r'.Converges wanted current := by
  unfold Converges
  rw [same]
  exact converges

/-- A size without pixels cannot be in use, so that it is pending. -/
theorem Converges.minimized (converges : r.Converges wanted current)
    (empty : wanted.isEmpty = true) : r.minimized = true := by
  obtain ⟨pixels, ⟨-, rfl⟩ | ⟨pending, -⟩⟩ := converges
  · exact absurd pixels (by simp [empty])
  · simp [Renderer.minimized, pending, empty]

end Renderer

/-- The stacks of a world, which may be rebuilt at the size that is wanted or at the one in use, and
not without pixels. -/
def sizing (W : Program.World (Graphics τ ρ) γ) (size : γ → Extent) (wanted : Extent) :
    Contract (Graphics τ ρ) γ where
  toWorld := W
  permits s
    | .rebuild extent => (extent = wanted ∨ extent = size s) ∧ extent.isEmpty = false
    | _ => True

namespace Contract

open Renderer

variable {W : Program.World (Graphics τ ρ) γ} {size : γ → Extent} {wanted : Extent}
  {r : Renderer τ} {s : γ}

private theorem settleRebuild_converges (resizes : W.Resizes size)
    (converges : r.Converges wanted (size s)) (shown : r.minimized = false) :
    (sizing W size wanted).KeepsOp settleRebuild r s
      (fun _ r' t => r'.pendingSize = none ∧ size t = wanted ∧ (size t).isEmpty = false)
      fun _ r' t => r'.Converges wanted (size t) := by
  obtain ⟨pixels, ⟨settled, inUse⟩ | ⟨pending, differs⟩⟩ := converges
  · rw [keepsOp_settleRebuild, settled]
    by_cases owed : r.rebuildOwed = true
    · simp only [owed, if_true, keeps_extent, keepsTask_rebuild]
      refine ⟨trivial, fun extent t asked => ?_⟩
      obtain ⟨rfl, same⟩ := resizes.keeps _ _ _ _ asked
      refine ⟨⟨.inl inUse, pixels⟩, fun u step => ?_, fun e u step => ?_⟩
      · have rebuilt := resizes.rebuilt _ _ _ step
        exact ⟨trivial, rebuilt.trans inUse, rebuilt ▸ pixels⟩
      · have kept := (resizes.notRebuilt _ _ _ _ step).trans same
        exact .of_settled settled (kept.trans inUse) (kept ▸ pixels)
    · rw [if_neg owed]
      exact ⟨rfl, inUse, pixels⟩
  · rw [keepsOp_settleRebuild, pending]
    have wantedPixels : wanted.isEmpty = false := by simpa [minimized, pending] using shown
    simp only [keepsTask_rebuild]
    refine ⟨⟨.inl rfl, wantedPixels⟩, fun t step => ?_, fun e t step => ?_⟩
    · have rebuilt := resizes.rebuilt _ _ _ step
      exact ⟨trivial, rebuilt, rebuilt ▸ wantedPixels⟩
    · rw [resizes.notRebuilt _ _ _ _ step]
      exact ⟨pixels, .inr ⟨pending, differs⟩⟩

private theorem beginFrame_converges (resizes : W.Resizes size)
    (converges : r.Converges wanted (size s)) :
    (sizing W size wanted).KeepsOp beginFrame r s
      (fun status r' t => r'.Converges wanted (size t) ∧
        ∀ frame, status = .ready frame → frame.extent = wanted)
      fun _ r' t => r'.Converges wanted (size t) := by
  rw [keepsOp_beginFrame]
  by_cases closed : r.closed = true
  · simpa [closed] using converges
  by_cases busy : r.active.isSome = true
  · simpa [closed, busy] using converges
  by_cases minimized : r.minimized = true
  · simpa [closed, busy, minimized] using converges
  rw [if_neg closed, if_neg busy, if_neg minimized]
  refine (settleRebuild_converges resizes converges (by simpa using minimized)).mono
    (fun _ r' t settled => ?_) fun _ _ _ => id
  obtain ⟨settled, inUse, pixels⟩ := settled
  -- From here on the size in use is the one that is wanted, whatever the calls reply.
  have stays {t u : γ} {call : GraphicsCall τ} {reply : call.Reply ρ}
      (sized : size t = wanted ∧ (size t).isEmpty = false) (step : W.step t call reply u)
      (other : ∀ extent, call ≠ .rebuild extent) :
      size u = wanted ∧ (size u).isEmpty = false := by
    rwa [resizes.keeps.same step other]
  have rests {r'' : Renderer τ} {t : γ} (same : r''.pendingSize = none)
      (sized : size t = wanted ∧ (size t).isEmpty = false) : r''.Converges wanted (size t) :=
    .of_settled same sized.1 sized.2
  simp only [keepsTask_waitForPrevious, keepsTask_acquire]
  refine ⟨trivial, fun u waited => ⟨trivial, fun image v acquired => ?_, fun e v failed => ?_⟩,
    fun e u failed => ?_⟩
  · have sized := stays (stays ⟨inUse, pixels⟩ waited (by simp)) acquired (by simp)
    rw [keepsOp_record, keepsTask_beginPass]
    refine ⟨trivial, fun recording w begun => ⟨trivial, fun extent x asked => ?_⟩,
      fun e w failed => rests settled (stays sized failed (by simp))⟩
    have sized := stays sized begun (by simp)
    obtain ⟨rfl, same⟩ := resizes.keeps _ _ _ _ asked
    refine ⟨rests settled (stays sized asked (by simp)), ?_⟩
    rintro _ ⟨⟩
    exact sized.1
  · have sized := stays (stays ⟨inUse, pixels⟩ waited (by simp)) failed (by simp)
    by_cases late : e = .outOfDate
    · rw [if_pos late]
      refine ⟨trivial, fun extent w asked => ?_⟩
      obtain ⟨rfl, same⟩ := resizes.keeps _ _ _ _ asked
      rw [keeps_done, keepsTask_rebuild]
      refine ⟨⟨.inl sized.1, sized.2⟩, fun x step => ?_, fun e x step => ?_⟩
      · have rebuilt := resizes.rebuilt _ _ _ step
        exact ⟨rests settled (rebuilt ▸ sized), by simp⟩
      · have kept := (resizes.notRebuilt _ _ _ _ step).trans same
        exact rests settled (kept ▸ sized)
    · rw [if_neg late]
      exact rests settled sized
  · exact rests settled (stays ⟨inUse, pixels⟩ failed (by simp))

private theorem perform_converges (resizes : W.Resizes size)
    (converges : r.Converges wanted (size s)) (request : Request) :
    (sizing W size wanted).Keeps (perform request r) s fun out t =>
      out.2.Converges (lastSize wanted [request]) (size t) := by
  by_cases sizeless : request.Sizeless
  · have kept := keeps_of_sizeless (C := sizing W size wanted) (r := r) (s := s) resizes.keeps ?_
      sizeless
    · apply kept.mono
      rintro ⟨_, r'⟩ t ⟨same, sized⟩
      rw [sized, lastSize_of_sizeless sizeless]
      exact converges.of_same same
    · intro t call other
      cases call with
      | rebuild extent => exact absurd rfl (other extent)
      | _ => trivial
  · cases request with
    | requestSize extent =>
      rw [perform, keeps_requestSize, keeps_extent]
      refine ⟨trivial, fun current t asked => ?_⟩
      obtain ⟨rfl, same⟩ := resizes.keeps _ _ _ _ asked
      rw [same]
      refine ⟨converges.1, ?_⟩
      by_cases inUse : extent = size s
      · simp [inUse, lastSize]
      · simp [inUse, lastSize]
    | beginFrame =>
      refine keeps_ignoring.mpr ((beginFrame_converges resizes converges).mono ?_ fun _ _ _ => id)
      exact fun _ _ _ kept => kept.1
    | _ => exact absurd trivial sizeless

private theorem serve_converges (resizes : W.Resizes size)
    (converges : r.Converges wanted (size s)) (requests : List Request) :
    (free W).Keeps (serve requests r) s fun out t =>
      out.2.Converges (lastSize wanted requests) (size t) := by
  induction requests generalizing r s wanted with
  | nil => exact converges
  | cons request later ih =>
    rw [serve, keeps_bind]
    have performed := perform_converges resizes converges request
    refine keeps_iff.mpr ⟨fun _ _ _ => trivial, fun out t ends => ?_⟩
    rw [lastSize_cons]
    exact ih (performed.ends ends)

end Contract

/-! ## Convergence -/

open Renderer in
/-- On a stack whose size changes with successful rebuilds only, whatever is asked of the renderer
and whatever fails: the last size that was asked for is in use, or it is pending and not in use. So
a frame has this size, a rebuild is made at it or at the one in use and never without pixels, and
frames stand still while it has no pixels. -/
theorem resize_converges {W : Program.World (Graphics τ ρ) γ} {size : γ → Extent}
    (resizes : W.Resizes size) {s t : γ} (pixels : (size s).isEmpty = false) (clearColor : Color)
    (requests : List Request) {r : Renderer τ}
    (served : (serve requests { clearColor }).Ends W s ((), r) t) :
    (r.pendingSize = none ∧ size t = lastSize (size s) requests ∨
      r.pendingSize = some (lastSize (size s) requests) ∧ lastSize (size s) requests ≠ size t) ∧
    (∀ frame r' u, (beginFrame.run r).Ends W t (.ok (.ready frame), r') u →
      frame.extent = lastSize (size s) requests) ∧
    (∀ request extent u, (perform request r).Makes W t (.rebuild extent) u →
      (extent = lastSize (size s) requests ∨ extent = size u) ∧ extent.isEmpty = false) ∧
    ((lastSize (size s) requests).isEmpty = true → r.StandsStill ρ) := by
  have begins : ({ clearColor } : Renderer τ).Converges (size s) (size s) :=
    .of_settled rfl rfl pixels
  have converges := (Contract.serve_converges resizes begins requests).ends served
  refine ⟨converges.2, fun frame r' u ends => ?_, fun request extent u makes => ?_,
    fun empty => standsStill_of_minimized (converges.minimized empty)⟩
  · have begun := Contract.beginFrame_converges (ρ := ρ) resizes converges
    exact (Contract.Keeps.ends begun ends).2 frame rfl
  · exact (Contract.perform_converges resizes converges request).permits makes

/-- A stack that replies what it likes, and whose size is that of its last successful rebuild. -/
def pliantStack (τ ρ : Type) : Program.World (Graphics τ ρ) Extent where
  step before call reply after :=
    match call, reply with
    | .rebuild extent, .ok () => after = extent
    | .rebuild _, .error _ => after = before
    | call, reply => SizeRule call reply before after

/-- The pliant stack takes the size of its last rebuild. -/
theorem pliantStack_resizes : (pliantStack τ ρ).Resizes id where
  keeps s call reply t step := by
    cases call with
    | rebuild extent => trivial
    | _ => exact step
  rebuilt _ _ _ step := step
  notRebuilt _ _ _ _ step := step

/-- Two sizes are asked for, the second one without pixels, and the first one cannot be applied. -/
def shrinking : List Renderer.Request :=
  [.requestSize ⟨8, 8⟩, .beginFrame, .requestSize ⟨0, 8⟩]

/-- The renderer after these requests. -/
def shrunk : Renderer Unit := { clearColor := .black, pendingSize := some ⟨0, 8⟩ }

private theorem ends_shrunk : (Renderer.serve shrinking { clearColor := .black }).Ends
    (pliantStack Unit Unit) ⟨4, 4⟩ ((), shrunk) ⟨4, 4⟩ := by
  refine .call ⟨4, 4⟩ ⟨4, 4⟩ ⟨rfl, rfl⟩ ?_
  refine .call (.error .timeout) ⟨4, 4⟩ rfl ?_
  refine .call ⟨4, 4⟩ ⟨4, 4⟩ ⟨rfl, rfl⟩ ?_
  exact .done

/-- The second of two sizes is pending, and the window without pixels stands still. -/
theorem resize_converges_shrunk :
    shrunk.pendingSize = some (Renderer.lastSize ⟨4, 4⟩ shrinking) ∧ shrunk.StandsStill Unit := by
  obtain ⟨⟨settled, -⟩ | ⟨pending, -⟩, -, -, still⟩ :=
    resize_converges pliantStack_resizes rfl .black shrinking ends_shrunk
  · exact absurd settled (by simp [shrunk])
  · exact ⟨pending, still rfl⟩

/-- The window loses its pixels while a frame is recorded. -/
def shrinkingMidFrame : List Renderer.Request := [.beginFrame, .requestSize ⟨0, 0⟩]

/-- The renderer after these requests. -/
def shrunkMidFrame : Renderer Unit :=
  { clearColor := .black, pendingSize := some ⟨0, 0⟩, active := some 0 }

private theorem ends_shrunkMidFrame :
    (Renderer.serve shrinkingMidFrame { clearColor := .black }).Ends (pliantStack Unit Unit)
      ⟨4, 4⟩ ((), shrunkMidFrame) ⟨4, 4⟩ := by
  refine .call (.ok ()) ⟨4, 4⟩ rfl ?_
  refine .call (.ok ⟨0, false⟩) ⟨4, 4⟩ rfl ?_
  refine .call (.ok ()) ⟨4, 4⟩ rfl ?_
  refine .call ⟨4, 4⟩ ⟨4, 4⟩ ⟨rfl, rfl⟩ ?_
  refine .call ⟨4, 4⟩ ⟨4, 4⟩ ⟨rfl, rfl⟩ ?_
  exact .done

/-- Not every frame is skipped while the last size has no pixels. -/
theorem exists_minimized_refusal :
    ¬∀ (requests : List Renderer.Request) (r : Renderer Unit) (t : Extent),
      (Renderer.serve requests { clearColor := .black }).Ends (pliantStack Unit Unit) ⟨4, 4⟩
        ((), r) t → (Renderer.lastSize ⟨4, 4⟩ requests).isEmpty = true →
          (Renderer.beginFrame : Renderer.Task Unit Unit _).run r = .done (.ok .skipped, r) := by
  intro skips
  have skipped := skips _ _ _ ends_shrunkMidFrame rfl
  have refused : (Renderer.beginFrame : Renderer.Task Unit Unit _).run shrunkMidFrame =
      .done (.error (.frameOrder "begin_frame while a frame is active"), shrunkMidFrame) := rfl
  rw [refused] at skipped
  injection skipped with outcome
  exact nomatch congrArg Prod.fst outcome

end PaintPresenter
