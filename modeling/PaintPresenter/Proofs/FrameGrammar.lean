import PaintPresenter.Proofs.Protocol

/-!
# The grammar of a frame

The calls that make up a frame come in one order: wait, acquire and begin the pass in one request,
end it and present in another one, with nothing in between that changes the stack. A renderer that
is asked for something out of this order refuses without making a call. `frame_grammar` states this
for every sequence of requests and every stack, together with the count of frames presented.
-/

namespace PaintPresenter

variable {τ ρ γ : Type}

/-- The image of the pass that was begun and neither ended nor torn down. Exchanges are listed
latest first. -/
def openPass : List (Exchange (Graphics τ ρ) γ) → Option UInt32
  | [] => none
  | ⟨.beginPass image _, .ok _, _⟩ :: _ => some image
  | ⟨.endPass, _, _⟩ :: _ => none
  | ⟨.tearDown, _, _⟩ :: _ => none
  | _ :: earlier => openPass earlier

/-- An image was queued for presentation, and is going to be shown. -/
def Exchange.shows : Exchange (Graphics τ ρ) γ → Bool
  | ⟨.present _, .ok outcome, _⟩ => outcome ≠ .outOfDate
  | _ => false

namespace Renderer

/-- The call has its place in a frame: it is made by `request`, which has exchanged `own` so far,
after earlier requests that exchanged `earlier`. A pass is over with its end, so that it is
presented at most once; nothing but a shutdown changes the stack while it is open. -/
def InGrammar (request : Request) (earlier own : List (Exchange (Graphics τ ρ) γ)) :
    GraphicsCall τ → Prop
  | .extent => True
  | .binding _ => True
  | .beginPass image _ => request = .beginFrame ∧ openPass (own ++ earlier) = none ∧
    ∃ taken waited acquired before, taken.index = image ∧
      own = ⟨.acquire, .ok taken, acquired⟩ :: ⟨.waitForPrevious, .ok (), waited⟩ :: before
  | .endPass => request = .endFrame ∧ own = [] ∧ (openPass earlier).isSome
  | .present image => request = .endFrame ∧ openPass earlier = some image ∧
    ∃ ended, own = [⟨.endPass, .ok (), ended⟩]
  | _ => openPass (own ++ earlier) = none ∨ request = .shutdown

/-- The operation makes no call, changes nothing and returns an error of order. -/
def Refuses {α : Type} (op : Task τ ρ α) (r : Renderer τ) : Prop :=
  ∃ violation, op.run r = .done (.error (.frameOrder violation), r)

/-- A renderer agrees with what it exchanged. -/
def Recounts (r : Renderer τ) (history : List (Exchange (Graphics τ ρ) γ)) : Prop :=
  r.active = openPass history ∧ r.presented = history.countP Exchange.shows ∧
    (r.closed = true → r.active = none)

end Renderer

/-! ## Every operation keeps the grammar -/

namespace Contract

variable {W : Program.World (Graphics τ ρ) γ} {request : Renderer.Request}
  {earlier own : List (Exchange (Graphics τ ρ) γ)} {r : Renderer τ} {t : γ}

open Renderer

private theorem settleRebuild_in_grammar (recounts : r.Recounts (own ++ earlier))
    (idle : r.Idle) :
    (watched W fun _ => InGrammar request earlier).KeepsOp settleRebuild r (t, own)
      (fun _ r' s => r'.Idle ∧ r'.Recounts (s.2 ++ earlier))
      fun _ r' s => r'.Recounts (s.2 ++ earlier) := by
  obtain ⟨active, presented, -⟩ := recounts
  obtain ⟨open_, inactive⟩ := idle
  rw [keepsOp_settleRebuild]
  cases r.pendingSize with
  | some extent =>
    simp [InGrammar, Recounts, Idle, openPass, Exchange.shows, open_, inactive, ← active,
      presented]
  | none =>
    by_cases owed : r.rebuildOwed = true
    · simp [owed, InGrammar, Recounts, Idle, openPass, Exchange.shows, open_, inactive, ← active,
        presented]
    · simp [owed, Recounts, Idle, open_, inactive, ← active, presented]

private theorem beginFrame_in_grammar (recounts : r.Recounts earlier) :
    (watched W fun _ => InGrammar .beginFrame earlier).KeepsOp beginFrame r (t, [])
      (fun _ r' s => r'.Recounts (s.2 ++ earlier)) fun _ r' s => r'.Recounts (s.2 ++ earlier) := by
  rw [keepsOp_beginFrame]
  by_cases closed : r.closed = true
  · simpa [closed] using recounts
  by_cases busy : r.active.isSome = true
  · simpa [closed, busy] using recounts
  by_cases minimized : r.minimized = true
  · simpa [closed, busy, minimized] using recounts
  rw [if_neg closed, if_neg busy, if_neg minimized]
  apply (settleRebuild_in_grammar recounts ⟨by simpa using closed, by simpa using busy⟩).mono
  · rintro - r' ⟨u, own⟩ ⟨⟨open_, inactive⟩, active, presented, -⟩
    simp [keepsOp_record, InGrammar, Recounts, openPass, Exchange.shows, open_, inactive, ← active,
      presented]
  · exact fun _ _ _ => id

private theorem endFrame_in_grammar (recounts : r.Recounts earlier) :
    (watched W fun _ => InGrammar .endFrame earlier).KeepsOp endFrame r (t, [])
      (fun _ r' s => r'.Recounts (s.2 ++ earlier)) fun _ r' s => r'.Recounts (s.2 ++ earlier) := by
  obtain ⟨active, presented, tidy⟩ := recounts
  rw [keepsOp_endFrame]
  cases pass : r.active with
  | none => simp [Recounts, ← active, presented, pass]
  | some image =>
    have counted (outcome : PresentOutcome) (n : Nat) :
        (if outcome = .outOfDate then n else n + 1) =
          (if outcome = .outOfDate then 0 else 1) + n := by
      split <;> omega
    simpa [InGrammar, Recounts, openPass, Exchange.shows, presented, ← active, pass,
      List.countP_cons] using fun _ _ outcome _ _ => counted outcome _

private theorem upload_in_grammar (recounts : r.Recounts earlier) (pixels : PixelBuffer) :
    (watched W fun _ => InGrammar request earlier).KeepsOp (upload pixels) r (t, [])
      (fun _ r' s => r'.Recounts (s.2 ++ earlier)) fun _ r' s => r'.Recounts (s.2 ++ earlier) := by
  rw [keepsOp_upload]
  by_cases closed : r.closed = true
  · simpa [closed] using recounts
  by_cases busy : r.active.isSome = true
  · simpa [closed, busy] using recounts
  obtain ⟨active, presented, -⟩ := recounts
  have inactive : r.active = none := by simpa using busy
  rw [if_neg closed, if_neg busy, keepsOp_heldUpload]
  cases r.texture.current with
  | none => simp [InGrammar, Recounts, openPass, Exchange.shows, inactive, ← active, presented]
  | some current =>
    obtain ⟨texture, size⟩ := current
    by_cases same : size = pixels.extent
    · simp [same, InGrammar, Recounts, openPass, Exchange.shows, inactive, ← active, presented]
    · simp [same, InGrammar, Recounts, openPass, Exchange.shows, inactive, ← active, presented]

private theorem shutdown_in_grammar (recounts : r.Recounts earlier) :
    (watched W fun _ => InGrammar .shutdown earlier).KeepsOp shutdown r (t, [])
      (fun _ r' s => r'.Recounts (s.2 ++ earlier)) fun _ r' s => r'.Recounts (s.2 ++ earlier) := by
  rw [keepsOp_shutdown]
  by_cases closed : r.closed = true
  · simpa [closed] using recounts
  obtain ⟨active, presented, -⟩ := recounts
  rw [if_neg closed]
  simp only [keeps_clear]
  cases r.texture.current with
  | none => simp [InGrammar, Recounts, openPass, Exchange.shows, presented]
  | some current => simp [InGrammar, Recounts, openPass, Exchange.shows, presented]

private theorem perform_in_grammar (recounts : r.Recounts earlier) (request : Request) :
    (watched W fun _ => InGrammar request earlier).Keeps (perform request r) (t, [])
      fun out s => out.2.Recounts (s.2 ++ earlier) := by
  cases request with
  | requestSize extent =>
    rw [perform, keeps_requestSize]
    obtain ⟨active, presented, tidy⟩ := recounts
    simpa [InGrammar, Recounts, openPass, Exchange.shows, ← active, presented]
      using fun _ _ _ => tidy
  | beginFrame => exact keeps_ignoring.mpr (beginFrame_in_grammar recounts)
  | endFrame => exact keeps_ignoring.mpr (endFrame_in_grammar recounts)
  | upload pixels => exact keeps_ignoring.mpr (upload_in_grammar recounts pixels)
  | uploadPaint frame =>
    rw [perform, keeps_ignoring, uploadPaint, keepsOp_bind, keepsOp_ofResult]
    cases frame.pixels with
    | ok pixels => exact upload_in_grammar recounts pixels
    | error e => exact recounts
  | setClearColor color => exact recounts
  | binding =>
    rw [perform, keeps_bind, keeps_renderer_binding]
    cases r.texture.current with
    | none => exact recounts
    | some current =>
      obtain ⟨active, presented, tidy⟩ := recounts
      simpa [InGrammar, Recounts, openPass, Exchange.shows, ← active, presented]
        using fun _ _ _ => tidy
  | shutdown => exact keeps_ignoring.mpr (shutdown_in_grammar recounts)

private theorem serve_recounts {history : List (Exchange (Graphics τ ρ) γ)}
    (recounts : r.Recounts history) (requests : List Request) :
    (watched W fun _ _ _ => True).Keeps (serve requests r) (t, history)
      fun out s => out.2.Recounts s.2 := by
  induction requests generalizing r t history with
  | nil => exact recounts
  | cons request later ih =>
    rw [serve, keeps_bind]
    apply (perform_in_grammar recounts request).continued.mono
    rintro ⟨_, r'⟩ ⟨u, _⟩ ⟨own, rfl, recounts⟩
    exact ih recounts

end Contract

/-! ## Refusals -/

namespace Renderer

variable {r : Renderer τ}

/-- Reading the renderer first changes nothing. -/
theorem run_get_bind {α : Type} (rest : Renderer τ → Task τ ρ α) :
    (get >>= rest).run r = (rest r).run r := rfl

/-- While a frame is active no other one begins. -/
theorem refuses_beginFrame {image : UInt32} (busy : r.active = some image) :
    Refuses (beginFrame : Task τ ρ _) r := by
  unfold Refuses beginFrame
  rw [run_get_bind, busy]
  cases r.closed with
  | true => exact ⟨_, rfl⟩
  | false => exact ⟨_, rfl⟩

private theorem refuses_upload {image : UInt32} (busy : r.active = some image)
    (pixels : PixelBuffer) : Refuses (upload pixels : Task τ ρ _) r := by
  unfold Refuses upload
  rw [run_get_bind, busy]
  cases r.closed with
  | true => exact ⟨_, rfl⟩
  | false => exact ⟨_, rfl⟩

/-- Without an active frame none ends. -/
theorem refuses_endFrame (inactive : r.active = none) :
    Refuses (endFrame : Task τ ρ _) r := by
  unfold Refuses endFrame
  rw [run_get_bind, inactive]
  exact ⟨_, rfl⟩

end Renderer

/-! ## The grammar -/

open Renderer in
/-- Whatever is asked of a renderer and whatever fails, after any requests: the renderer knows the
pass that is open and how many frames were shown, it refuses what is out of order, and every call
of the next request has its place in a frame. -/
theorem frame_grammar {W : Program.World (Graphics τ ρ) γ} {s t : γ} (clearColor : Color)
    (requests : List Request) {r : Renderer τ} {earlier : List (Exchange (Graphics τ ρ) γ)}
    (served : (serve requests { clearColor }).Ends W.recorded (s, []) ((), r) (t, earlier)) :
    r.active = openPass earlier ∧
    r.presented = earlier.countP Exchange.shows ∧
    (∀ image, r.active = some image →
      Refuses (beginFrame : Task τ ρ _) r ∧ ∀ pixels, Refuses (upload pixels : Task τ ρ _) r) ∧
    (r.active = none → Refuses (endFrame : Task τ ρ _) r) ∧
    ∀ request call u own, (perform request r).Makes W.recorded (t, []) call (u, own) →
      InGrammar request earlier own call := by
  have begins : Recounts ({ clearColor } : Renderer τ) ([] : List (Exchange (Graphics τ ρ) γ)) :=
    ⟨rfl, rfl, fun _ => rfl⟩
  have recounts : r.Recounts earlier := (Contract.serve_recounts begins requests).ends served
  refine ⟨recounts.1, recounts.2.1, ?_, refuses_endFrame, ?_⟩
  · exact fun image busy => ⟨refuses_beginFrame busy, refuses_upload busy⟩
  · intro request call u own makes
    exact (Contract.perform_in_grammar recounts request).permits makes

/-- A frame that is shown on a swapchain that no longer fits. -/
def shownFrame : List (Exchange (Graphics Unit Unit) Unit) :=
  [⟨.present 0, .ok .suboptimal, ()⟩, ⟨.endPass, .ok (), ()⟩, ⟨.extent, ⟨4, 4⟩, ()⟩,
    ⟨.beginPass 0 .black, .ok (), ()⟩, ⟨.acquire, .ok ⟨0, false⟩, ()⟩,
    ⟨.waitForPrevious, .ok (), ()⟩]

/-- What comes before the pass of the frame after it. -/
def frameAfterShown : List (Exchange (Graphics Unit Unit) Unit) :=
  [⟨.acquire, .ok ⟨1, false⟩, ()⟩, ⟨.waitForPrevious, .ok (), ()⟩, ⟨.rebuild ⟨4, 4⟩, .ok (), ()⟩,
    ⟨.extent, ⟨4, 4⟩, ()⟩]

/-- The renderer between the two frames. -/
def afterShown : Renderer Unit := { clearColor := .black, rebuildOwed := true, presented := 1 }

private theorem ends_with_shownFrame :
    (Renderer.serve [.beginFrame, .endFrame] { clearColor := .black }).Ends
      (anyStack Unit Unit).recorded ((), []) ((), afterShown) ((), shownFrame) := by
  refine .call (.ok ()) ((), shownFrame.drop 5) ⟨trivial, rfl⟩ ?_
  refine .call (.ok ⟨0, false⟩) ((), shownFrame.drop 4) ⟨trivial, rfl⟩ ?_
  refine .call (.ok ()) ((), shownFrame.drop 3) ⟨trivial, rfl⟩ ?_
  refine .call ⟨4, 4⟩ ((), shownFrame.drop 2) ⟨trivial, rfl⟩ ?_
  refine .call (.ok ()) ((), shownFrame.drop 1) ⟨trivial, rfl⟩ ?_
  refine .call (.ok .suboptimal) ((), shownFrame) ⟨trivial, rfl⟩ ?_
  exact .done

private theorem beginsPass_after_shown :
    (Renderer.perform .beginFrame afterShown).Makes (anyStack Unit Unit).recorded ((), [])
      (.beginPass 1 .black) ((), frameAfterShown) := by
  refine .call ⟨4, 4⟩ ((), frameAfterShown.drop 3) ⟨trivial, rfl⟩ ?_
  refine .call (.ok ()) ((), frameAfterShown.drop 2) ⟨trivial, rfl⟩ ?_
  refine .call (.ok ()) ((), frameAfterShown.drop 1) ⟨trivial, rfl⟩ ?_
  refine .call (.ok ⟨1, false⟩) ((), frameAfterShown) ⟨trivial, rfl⟩ ?_
  exact .here

/-- One frame is shown, a second end is refused, and the next frame begins its pass in turn. -/
theorem frame_grammar_after_shown :
    openPass shownFrame = none ∧ shownFrame.countP Exchange.shows = 1 ∧
      Renderer.Refuses (Renderer.endFrame : Renderer.Task Unit Unit Unit) afterShown ∧
      Renderer.InGrammar .beginFrame shownFrame frameAfterShown (.beginPass 1 .black) := by
  obtain ⟨active, presented, -, refuses, grammar⟩ :=
    frame_grammar .black [.beginFrame, .endFrame] ends_with_shownFrame
  exact ⟨active.symm, presented.symm, refuses rfl,
    grammar .beginFrame _ () frameAfterShown beginsPass_after_shown⟩

end PaintPresenter
