import PaintPresenter.Proofs.PaintAccount
import PaintPresenter.Proofs.TextureAccount

/-!
# The paint that is drawn

Painters, a mailbox, a renderer and a stack in memory whose calls may fail make up a performance.
Painters act through any holder of the mailbox, at any time between the steps of the frame loop; an
upload touches the mailbox once, at its start, so that what painters do during it is the same as
what they do right after it. `draw_sees_shown` says what a frame draws after any such history.
-/

namespace PaintPresenter

open Simulation

/-- A mailbox with its holders, a renderer, and the stack it plays on. -/
structure Performance where
  holders : MailboxHolders
  renderer : Renderer Nat
  stack : RiggedStack

namespace Performance

/-- A performance before anything happened. -/
def opening (box : PaintMailbox) (clearColor : Color) : Performance :=
  ⟨MailboxHolders.adopt box {}, { clearColor }, {}⟩

/-- One thing happens. -/
inductive Next (p : Performance) : Happening → Performance → Prop
  | shared (holder : Nat) : Next p .shared { p with holders := p.holders.share holder }
  | painted {box : PaintMailbox} (holder : Nat) (view : Extent) (bytes : ByteArray)
      (holds : p.holders.box? holder = some box) :
      Next p (.painted ⟨view, bytes⟩ (box.post view bytes).1)
        { p with holders := p.holders.store holder (box.post view bytes).2 }
  | resized {box : PaintMailbox} {result : Except PaintRefusal Unit} (holder : Nat) (view : Extent)
      (holds : p.holders.box? holder = some box) (allocated : (box.resize view).1 = .ok result) :
      Next p (.resized view result)
        { p with holders := p.holders.store holder (box.resize view).2 }
  | uploaded {box : PaintMailbox} {result : Except GraphicsError (Option UploadOutcome)}
      {renderer : Renderer Nat} {stack : RiggedStack}
      {own : List (Exchange (Graphics Nat Nat) RiggedStack)} (holder : Nat)
      (holds : p.holders.box? holder = some box)
      (ends : ((Renderer.uploadCollected box.collect.1).run p.renderer).Ends rigged.recorded
        (p.stack, []) (result, renderer) (stack, own)) :
      Next p (.uploaded box.collect.1 result own)
        ⟨p.holders.store holder box.collect.2, renderer, stack⟩
  | driven {control : LoopControl} {renderer : Renderer Nat} {stack : RiggedStack}
      {own : List (Exchange (FrameLoop Nat Nat) RiggedStack)}
      (ends : (driveFrame p.renderer).Ends rigged.drawing.recorded (p.stack, [])
        (control, renderer) (stack, own)) :
      Next p (.driven control) { p with renderer, stack }
  | sizeRequested {renderer : Renderer Nat} {stack : RiggedStack} (extent : Extent)
      (ends : (Renderer.requestSize extent p.renderer).Ends rigged p.stack ((), renderer) stack) :
      Next p (.sizeRequested extent) { p with renderer, stack }
  | shutDown {result : Except GraphicsError Unit} {renderer : Renderer Nat} {stack : RiggedStack}
      (ends : (Renderer.shutdown.run p.renderer).Ends rigged p.stack (result, renderer) stack) :
      Next p (.shutDown result) { p with renderer, stack }

/-- Things happen one after the other; the history is listed latest first. -/
inductive Plays (start : Performance) : List Happening → Performance → Prop
  | opens : Plays start [] start
  | goesOn {history : List Happening} {p q : Performance} {happening : Happening}
      (played : Plays start history p) (next : p.Next happening q) :
      Plays start (happening :: history) q

/-! ## One mailbox -/

/-- All holders hold the same mailbox. -/
def Shares (holders : MailboxHolders) (box : PaintMailbox) : Prop :=
  holders.boxes = #[box] ∧ ∀ index ∈ holders.owned, index = 0

variable {holders : MailboxHolders} {box : PaintMailbox} {holder : Nat}

private theorem shares_adopt (box : PaintMailbox) : Shares (MailboxHolders.adopt box {}) box :=
  ⟨rfl, by simp [MailboxHolders.adopt]⟩

private theorem Shares.owned (shares : Shares holders box) {index : Nat}
    (owned : holders.owned[holder]? = some index) : index = 0 :=
  shares.2 index (Array.mem_of_getElem? owned)

private theorem Shares.box? (shares : Shares holders box) {other : PaintMailbox}
    (holds : holders.box? holder = some other) : other = box := by
  obtain ⟨index, owned, found⟩ := Option.bind_eq_some_iff.mp holds
  obtain rfl := shares.owned owned
  rw [shares.1] at found
  exact (Option.some.inj found).symm

private theorem Shares.share (shares : Shares holders box) (holder : Nat) :
    Shares (holders.share holder) box := by
  unfold MailboxHolders.share
  cases owned : holders.owned[holder]? with
  | none => exact shares
  | some index =>
    refine ⟨shares.1, fun i mem => ?_⟩
    obtain mem | rfl := Array.mem_push.mp mem
    · exact shares.2 i mem
    · exact shares.owned owned

private theorem Shares.store (shares : Shares holders box) {other after : PaintMailbox}
    (holds : holders.box? holder = some other) : Shares (holders.store holder after) after := by
  obtain ⟨index, owned, -⟩ := Option.bind_eq_some_iff.mp holds
  obtain rfl := shares.owned owned
  unfold MailboxHolders.store
  rw [owned]
  exact ⟨by simp [shares.1], shares.2⟩

end Performance

/-! ## What the texture shows -/

/-- The texture shows the paint, or there is none. -/
def HeldTexture.Shows (held : HeldTexture Nat) (stack : Rehearsal) : Option PaintFrame → Prop
  | none => held.current = none
  | some paint => ∃ id stored, held.current = some (id, paint.extent) ∧
    stack.texture? id = some stored ∧ stored.extent = paint.extent ∧
      Reorders paint.bytes stored.rgba

/-- While it is open, a renderer holds a texture that shows the paint. -/
def Renderer.Displays (r : Renderer Nat) (stack : Rehearsal) (paint : Option PaintFrame) : Prop :=
  if r.closed then r.texture.current = none else r.texture.Shows stack paint

/-- A drawing is given the texture that shows the paint: the last call before it asked how to
sample this texture. -/
def Sees (stack : Rehearsal) (own : List (Exchange (FrameLoop Nat Nat) RiggedStack))
    (binding : Option TextureBinding) : Option PaintFrame → Prop
  | none => binding = none
  | some paint =>
    ∃ id bound after before stored, own = ⟨.graphics (.binding id), bound, after⟩ :: before ∧
    binding = some bound ∧ bound.extent = paint.extent ∧ stack.texture? id = some stored ∧
      stored.extent = paint.extent ∧ Reorders paint.bytes stored.rgba

/-- A turn of the frame loop names textures that exist, and draws with the one that shows the
paint. -/
def MaySee (paint : Option PaintFrame) (s : RiggedStack)
    (own : List (Exchange (FrameLoop Nat Nat) RiggedStack)) : FrameCall Nat Nat → Prop
  | .graphics call => s.stack.Knows call
  | .draw _ binding => Sees s.stack own binding paint

section Shows

variable {held : HeldTexture Nat} {r after : Renderer Nat} {stack stack' : Rehearsal}
  {paint : Option PaintFrame}

private theorem HeldTexture.Shows.of_textures (shows : held.Shows stack paint)
    (same : stack'.textures = stack.textures) : held.Shows stack' paint := by
  cases paint with
  | none => exact shows
  | some paint =>
    obtain ⟨id, stored, current, found, shown⟩ := shows
    exact ⟨id, stored, current, by rwa [Rehearsal.texture?, same], shown⟩

private theorem HeldTexture.Shows.exists (shows : held.Shows stack paint) :
    held.Exists stack := by
  intro id size current
  cases paint with
  | none => exact absurd (current.symm.trans shows) (by simp)
  | some paint =>
    obtain ⟨number, stored, current', found, extent, -⟩ := shows
    obtain ⟨rfl, rfl⟩ := Prod.mk.inj (Option.some.inj (current.symm.trans current'))
    exact ⟨stored, found, extent⟩

private theorem Renderer.Displays.of_same (displays : r.Displays stack paint)
    (same : r.SameTexture after) (textures : stack'.textures = stack.textures) :
    after.Displays stack' paint := by
  unfold Renderer.Displays at displays ⊢
  rw [same.1, same.2]
  split at displays
  · rwa [if_pos (by assumption)]
  · rw [if_neg (by assumption)]
    exact displays.of_textures textures

end Shows

/-! ## Every step -/

namespace Contract

variable {r : Renderer Nat} {s : RiggedStack} {history : List Happening}

open Happening

-- After an upload the texture shows what the history says, and an error that is not one of order
-- was injected.
private theorem uploadCollected_displays {paint : Option PaintFrame} (inactive : r.active = none)
    (displays : r.Displays s.stack (shown history))
    (whole : ∀ frame, paint = some frame →
      PaintMailbox.viewBytes? frame.extent = some frame.bytes.size) :
    (watched rigged fun s _ => s.stack.Knows).KeepsOp (Renderer.uploadCollected paint) r (s, [])
      (fun outcome after t => after.active = none ∧ (outcome = none → paint = none) ∧
        after.Displays t.1.stack (shown (.uploaded paint (.ok outcome) t.2 :: history)))
      fun e after t => after.active = none ∧
        after.Displays t.1.stack (shown (.uploaded paint (.error e) t.2 :: history)) ∧
        ((∃ violation, e = .frameOrder violation) ∨ t.1.injected = e :: s.injected) := by
  cases paint with
  | none => exact ⟨inactive, fun _ => rfl, displays⟩
  | some frame =>
    obtain ⟨pixels, read, extent, reorders⟩ := PaintFrame.pixels_of_whole (whole frame rfl)
    rw [Renderer.uploadCollected, Renderer.uploadPaint, keepsOp_bind, keepsOp_bind,
      keepsOp_ofResult, read]
    simp only [keepsOp_upload]
    by_cases closed : r.closed = true
    · rw [if_pos closed]
      exact ⟨inactive, displays, .inl ⟨_, rfl⟩⟩
    rw [if_neg closed, if_neg (by simp [inactive])]
    rw [Renderer.Displays, if_neg closed] at displays
    apply (upload_rigged displays.exists pixels).mono
    · rintro outcome after t ⟨id, current, found⟩
      refine ⟨inactive, (fun found => nomatch found), ?_⟩
      rw [Renderer.Displays, if_neg closed]
      exact ⟨id, _, extent ▸ current, found, extent, reorders⟩
    · rintro e after t ⟨injected, ⟨loses, none⟩ | ⟨keeps, rfl, textures⟩⟩
      · refine ⟨inactive, ?_, .inr injected⟩
        rw [Renderer.Displays, if_neg closed, shown, if_pos loses]
        exact none
      · refine ⟨inactive, ?_, .inr injected⟩
        rw [Renderer.Displays, if_neg closed, shown, keeps]
        exact displays.of_textures textures

private theorem maySee_ignores {paint : Option PaintFrame}
    (textures : List (Nat × StoredTexture)) :
    (watched rigged.drawing (MaySee paint)).onStack.Ignores (·.1.stack.textures = textures) := by
  intro t call same spares
  refine ⟨?_, fun reply u step => (RiggedStack.textures_of_spares spares step.1).trans same⟩
  cases call with
  | createTexture pixels => exact spares.elim
  | updateTexture id pixels => exact spares.elim
  | releaseTexture id => exact spares.elim
  | binding id => exact spares.elim
  | _ => trivial

private theorem binding_sees {paint : Option PaintFrame} (frame : ActiveFrame Nat)
    {t : RiggedStack × List (Exchange (FrameLoop Nat Nat) RiggedStack)}
    (shows : r.texture.Shows t.1.stack paint) :
    (watched rigged.drawing (MaySee paint)).onStack.Keeps (Renderer.binding? r) t fun out u =>
      out.2 = r ∧ MaySee paint u.1 u.2 (.draw frame out.1) ∧
        u.1.stack.textures = t.1.stack.textures := by
  rw [keeps_renderer_binding]
  cases paint with
  | none =>
    have none : r.texture.current = none := shows
    rw [none]
    exact ⟨rfl, rfl, rfl⟩
  | some paint =>
    obtain ⟨id, stored, current, found, extent, reorders⟩ := shows
    rw [current]
    refine (keeps_binding ..).mpr ⟨Option.isSome_iff_exists.mpr ⟨stored, found⟩, ?_⟩
    rintro bound ⟨u, own⟩ ⟨step, written⟩
    dsimp only at written
    subst written
    obtain ⟨size, kept⟩ := RiggedStack.bound found step
    rw [Rehearsal.texture?, ← kept] at found
    exact ⟨rfl, ⟨id, bound, u, t.2, stored, rfl, rfl, size.trans extent, found, extent, reorders⟩,
      kept⟩

private theorem driveFrame_sees {paint : Option PaintFrame} (inactive : r.active = none)
    (displays : r.Displays s.stack paint) :
    (watched rigged.drawing (MaySee paint)).Keeps (driveFrame r) (s, [])
      fun out t => out.2.active = none ∧ out.2.Displays t.1.stack paint := by
  apply (driveFrame_ignores (maySee_ignores s.stack.textures) rfl inactive ?_).mono
  · exact fun out t h => ⟨h.2.2, displays.of_same h.2.1 h.1⟩
  · rintro r' frame t open_ same textures
    rw [Renderer.Displays, open_, if_neg Bool.false_ne_true, ← same.1] at displays
    apply (binding_sees frame (displays.of_textures textures)).mono
    rintro out u ⟨rfl, sees, kept⟩
    refine ⟨rfl, sees, fun v step => ?_⟩
    have unchanged : v.1 = u.1 := step.1
    rw [unchanged]
    exact kept.trans textures

private theorem requestSize_displays {paint : Option PaintFrame} (inactive : r.active = none)
    (displays : r.Displays s.stack paint) (extent : Extent) :
    (free rigged).Keeps (Renderer.requestSize extent r) s
      fun out t => out.2.active = none ∧ out.2.Displays t.stack paint := by
  rw [keeps_requestSize]
  refine (keeps_extent _).mpr ⟨trivial, fun current t step => ⟨inactive, ?_⟩⟩
  have spares : GraphicsCall.Spares (τ := Nat) .extent := trivial
  exact displays.of_same ⟨rfl, rfl⟩ (RiggedStack.textures_of_spares spares step)

private theorem shutdown_displays {paint : Option PaintFrame} (inactive : r.active = none)
    (displays : r.Displays s.stack paint) :
    (free rigged).KeepsOp Renderer.shutdown r s
      (fun _ after t => after.active = none ∧ after.Displays t.stack paint)
      fun _ after t => after.active = none ∧ after.Displays t.stack paint := by
  rw [keepsOp_shutdown]
  by_cases closed : r.closed = true
  · rw [if_pos closed]
    exact ⟨inactive, displays⟩
  · rw [if_neg closed]
    refine keepsTask_waitIdle.mpr ⟨trivial, fun t _ => ?_, fun e t _ => ?_⟩
    · exact keeps_free fun _ u => keeps_free fun _ v => ⟨rfl, rfl⟩
    · exact keeps_free fun _ u => keeps_free fun _ v => ⟨rfl, rfl⟩

end Contract

/-! ## Every history -/

namespace Performance

open Happening

/-- A performance agrees with its history. -/
structure Agrees (p : Performance) (history : List Happening) : Prop where
  mailbox : ∃ box, Shares p.holders box ∧ box.Agrees history
  accounted : Accounted history
  inactive : p.renderer.active = none
  displays : p.renderer.Displays p.stack.stack (shown history)

private theorem agrees_opening {view : Extent} {box : PaintMailbox}
    (created : PaintMailbox.create view = .ok (.ok box)) (clearColor : Color) :
    (opening box clearColor).Agrees [] where
  mailbox := ⟨box, shares_adopt box, PaintMailbox.agrees_of_create created⟩
  accounted := rfl
  inactive := rfl
  displays := rfl

private theorem Agrees.next {p q : Performance} {history : List Happening} {happening : Happening}
    (agrees : p.Agrees history) (next : p.Next happening q) : q.Agrees (happening :: history) := by
  obtain ⟨⟨box, shares, holds⟩, accounted, inactive, displays⟩ := agrees
  cases next with
  | shared holder => exact ⟨⟨box, shares.share holder, holds⟩, accounted, inactive, displays⟩
  | painted holder view bytes found =>
    obtain rfl := shares.box? found
    exact ⟨⟨_, shares.store found, holds.post view bytes⟩, accounted.painted _ _, inactive,
      displays⟩
  | resized holder view found allocated =>
    obtain rfl := shares.box? found
    exact ⟨⟨_, shares.store found, holds.resize allocated⟩, accounted.resized _ _, inactive,
      displays⟩
  | @uploaded taken result _ _ own holder found ends =>
    obtain rfl := shares.box? found
    rw [holds.1] at ends ⊢
    have promised :=
      Contract.Keeps.ends (Contract.uploadCollected_displays inactive displays holds.2) ends
    have mailbox : ∃ box, Shares (p.holders.store holder taken.collect.2) box ∧
        box.Agrees (.uploaded (pending history) result own :: history) :=
      ⟨_, shares.store found, PaintMailbox.agrees_of_collect ..⟩
    cases result with
    | ok outcome =>
      obtain ⟨inactive, found', displays⟩ := promised
      exact ⟨mailbox, accounted.uploaded (fun nothing => found' (Except.ok.inj nothing)) own,
        inactive, displays⟩
    | error e =>
      obtain ⟨inactive, displays, -⟩ := promised
      exact ⟨mailbox, accounted.uploaded (by simp) own, inactive, displays⟩
  | driven ends =>
    have kept := (Contract.driveFrame_sees inactive displays).ends ends
    exact ⟨⟨box, shares, holds⟩, accounted, kept.1, kept.2⟩
  | sizeRequested extent ends =>
    have kept := (Contract.requestSize_displays inactive displays extent).ends ends
    exact ⟨⟨box, shares, holds⟩, accounted, kept.1, kept.2⟩
  | @shutDown result _ _ ends =>
    have kept := Contract.Keeps.ends (Contract.shutdown_displays inactive displays) ends
    cases result with
    | ok => exact ⟨⟨box, shares, holds⟩, accounted, kept.1, kept.2⟩
    | error e => exact ⟨⟨box, shares, holds⟩, accounted, kept.1, kept.2⟩

private theorem Plays.agrees {start p : Performance} {history : List Happening}
    (played : Plays start history p) (begins : start.Agrees []) : p.Agrees history := by
  induction played with
  | opens => exact begins
  | goesOn _ next ih => exact ih.next next

/-- Whatever painters and the frame loop did and whatever failed: every accepted paint is accounted
for once; a drawing is given the texture that shows the paint of the history, or none; an upload
takes the paint that waits and returns no error but an injected one and one of order; and neither
names a texture that does not exist, so that the stack stops them at most at a dead fence. -/
theorem draw_sees_shown {view : Extent} {box : PaintMailbox} (clearColor : Color)
    (created : PaintMailbox.create view = .ok (.ok box)) {history : List Happening}
    {p : Performance} (played : Plays (opening box clearColor) history p) :
    Accounted history ∧
    (∀ frame binding u own, (driveFrame p.renderer).Makes rigged.drawing.recorded (p.stack, [])
      (.draw frame binding) (u, own) → Sees u.stack own binding (shown history)) ∧
    (∀ paint result own q, p.Next (.uploaded paint result own) q →
      paint = pending history ∧ ∀ e, result = .error e →
        (∃ violation, e = .frameOrder violation) ∨ q.stack.injected = e :: p.stack.injected) ∧
    (∀ call u own, (driveFrame p.renderer).Makes rigged.drawing.recorded (p.stack, [])
      (.graphics call) (u, own) →
      ∀ fault, (u.stack.answer call).1 = .error fault → fault = .deadlock) ∧
    ∀ call u own, ((Renderer.uploadCollected (pending history)).run p.renderer).Makes
      rigged.recorded (p.stack, []) call (u, own) →
      ∀ fault, (u.stack.answer call).1 = .error fault → fault = .deadlock := by
  obtain ⟨⟨box, shares, holds⟩, accounted, inactive, displays⟩ :=
    played.agrees (agrees_opening created clearColor)
  have drives := Contract.driveFrame_sees inactive displays
  have uploads := Contract.uploadCollected_displays inactive displays holds.2
  refine ⟨accounted, fun frame binding u own makes => drives.permits makes,
    fun paint result own q next => ?_, fun call u own makes fault failed => ?_,
    fun call u own makes fault failed => ?_⟩
  · cases next with
    | uploaded holder found ends =>
      obtain rfl := shares.box? found
      rw [holds.1] at ends ⊢
      refine ⟨rfl, ?_⟩
      rintro e rfl
      have promised := Contract.Keeps.ends uploads ends
      exact promised.2.2
  · exact Rehearsal.fault_of_knows (drives.permits makes) failed
  · exact Rehearsal.fault_of_knows (Contract.Keeps.permits uploads makes) failed

/-- One pixel: blue, green, red, alpha. -/
def onePixelPaint : PaintFrame := ⟨⟨1, 1⟩, ⟨#[1, 2, 3, 4]⟩⟩

/-- The pixel as it is uploaded. -/
def onePixelUpload : PixelBuffer := { onePixel with order := .bgra }

/-- The stack with the pixel in its first texture. -/
def withOnePixel : RiggedStack := ⟨(Rehearsal.create onePixelUpload {}).2, []⟩

/-- A paint that is accepted and uploaded. -/
def uploadedOnce : List Happening :=
  [.uploaded (some onePixelPaint) (.ok (some .created))
    [⟨.createTexture onePixelUpload, .ok 1, withOnePixel⟩], .painted onePixelPaint (.ok ())]

/-- A mailbox of one pixel that nothing was posted to. -/
def blankBox : PaintMailbox := ⟨⟨1, 1⟩, Bytes.constant 4 0, false⟩

/-- The mailbox with the paint. -/
def paintedBox : PaintMailbox := ⟨⟨1, 1⟩, onePixelPaint.bytes, true⟩

/-- The performance after the upload. -/
def withUpload : Performance where
  holders := ⟨#[paintedBox.collect.2], #[0]⟩
  renderer := { clearColor := .black, texture := ⟨some (1, ⟨1, 1⟩)⟩ }
  stack := withOnePixel

private theorem plays_uploadedOnce : Plays (opening blankBox .black) uploadedOnce withUpload := by
  have painted : (opening blankBox .black).Next (.painted onePixelPaint (.ok ()))
      ⟨⟨#[paintedBox], #[0]⟩, { clearColor := .black }, {}⟩ :=
    @Next.painted _ blankBox 0 ⟨1, 1⟩ onePixelPaint.bytes rfl
  refine .goesOn (.goesOn .opens painted) (@Next.uploaded _ paintedBox _ _ _ _ 0 rfl ?_)
  exact .call (.ok 1) (withOnePixel, _) ⟨.inl ⟨[], [], rfl, rfl⟩, rfl⟩ .done

/-- How the first texture is sampled. -/
def onePixelBinding : TextureBinding := ⟨.null, .null, .shaderReadOnly, ⟨1, 1⟩⟩

/-- A stack after it answered a call. -/
def answered (s : RiggedStack) (call : GraphicsCall Nat) : RiggedStack :=
  { s with stack := (s.stack.answer call).2 }

/-- The stack with the pixel, after a wait. -/
def waitedOnePixel : RiggedStack := answered withOnePixel .waitForPrevious

/-- The stack with the pixel, after an acquire. -/
def acquiredOnePixel : RiggedStack := answered waitedOnePixel .acquire

/-- The stack with the pixel, when a frame is drawn on it. -/
def begunOnePixel : RiggedStack := answered acquiredOnePixel (.beginPass 0 .black)

/-- What the frame exchanged before it is drawn. -/
def beforeDrawing : List (Exchange (FrameLoop Nat Nat) RiggedStack) :=
  [⟨.graphics (.binding 1), onePixelBinding, begunOnePixel⟩,
    ⟨.graphics .extent, ⟨1280, 720⟩, begunOnePixel⟩,
    ⟨.graphics (.beginPass 0 .black), .ok 1, begunOnePixel⟩,
    ⟨.graphics .acquire, .ok ⟨0, false⟩, acquiredOnePixel⟩,
    ⟨.graphics .waitForPrevious, .ok (), waitedOnePixel⟩]

private theorem draws_withUpload : (driveFrame withUpload.renderer).Makes rigged.drawing.recorded
    (withUpload.stack, []) (.draw ⟨1, 0, ⟨1280, 720⟩⟩ onePixelBinding)
    (begunOnePixel, beforeDrawing) := by
  refine .call (.ok ()) (waitedOnePixel, beforeDrawing.drop 4) ⟨.inl ⟨[], [], rfl, rfl⟩, rfl⟩ ?_
  refine .call (.ok ⟨0, false⟩) (acquiredOnePixel, beforeDrawing.drop 3)
    ⟨.inl ⟨[], [], rfl, rfl⟩, rfl⟩ ?_
  refine .call (.ok 1) (begunOnePixel, beforeDrawing.drop 2) ⟨.inl ⟨[], [], rfl, rfl⟩, rfl⟩ ?_
  refine .call ⟨1280, 720⟩ (begunOnePixel, beforeDrawing.drop 1)
    ⟨.inl ⟨[], [], rfl, rfl⟩, rfl⟩ ?_
  refine .call onePixelBinding (begunOnePixel, beforeDrawing) ⟨.inl ⟨[], [], rfl, rfl⟩, rfl⟩ ?_
  exact .here

/-- A paint of one pixel is uploaded and drawn. -/
theorem draw_sees_shown_onePixel :
    Accounted uploadedOnce ∧
      Sees begunOnePixel.stack beforeDrawing onePixelBinding (some onePixelPaint) := by
  have created : PaintMailbox.create ⟨1, 1⟩ = .ok (.ok blankBox) := rfl
  obtain ⟨accounted, sees, -⟩ := draw_sees_shown .black created plays_uploadedOnce
  exact ⟨accounted, sees _ _ _ _ draws_withUpload⟩

end Performance

end PaintPresenter
