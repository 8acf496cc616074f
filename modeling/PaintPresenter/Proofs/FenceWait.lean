import PaintPresenter.Proofs.Protocol

/-!
# Waiting for the fence

A stack keeps one fence. It is armed while it is signaled or a pending submission will signal it;
to wait for it while it is not armed is to wait forever. A wait disarms it, and a frame that gets
as far as its submission arms it again, as do a failed acquire and a successful rebuild. A frame
that is given up between its acquire and its submission does not, so the next wait without a
rebuild before it finds the fence stranded. `wait_stranded_iff` says that this is the only way.
-/

namespace PaintPresenter

variable {τ ρ γ : Type}

/-- What a call and its reply may do to the fence, armed or not before and after the call. A
submission that failed may have been accepted. -/
def FenceRule : (call : GraphicsCall τ) → call.Reply ρ → (before after : Prop) → Prop
  | .waitForPrevious, .ok (), _, after => ¬after
  | .acquire, .error _, _, after => after
  | .present _, .ok _, _, after => after
  | .present _, .error _, before, after => before → after
  | .rebuild _, .ok (), _, after => after
  | _, _, before, after => after ↔ before

/-- The stacks of a world follow the rule for fences. -/
def Program.World.Fenced (W : Program.World (Graphics τ ρ) γ) (armed : γ → Prop) : Prop :=
  ∀ s call reply t, W.step s call reply t → FenceRule call reply (armed s) (armed t)

namespace Exchange

/-- A frame is given up after its acquire, and nothing will signal the fence. -/
def GivesUp (armed : γ → Prop) : Exchange (Graphics τ ρ) γ → Prop
  | ⟨.beginPass _ _, .error _, _⟩ => True
  | ⟨.endPass, .error _, _⟩ => True
  | ⟨.present _, .error _, after⟩ => ¬armed after
  | _ => False

/-- A wait or a rebuild succeeds: what became of earlier frames does not matter any more. -/
def Renews : Exchange (Graphics τ ρ) γ → Prop
  | ⟨.waitForPrevious, .ok (), _⟩ => True
  | ⟨.rebuild _, .ok (), _⟩ => True
  | _ => False

end Exchange

/-- The last frame was given up, and no rebuild succeeded since. Exchanges are listed latest
first. -/
def FrameGivenUp (armed : γ → Prop) : List (Exchange (Graphics τ ρ) γ) → Prop
  | [] => False
  | x :: earlier => x.GivesUp armed ∨ (¬x.Renews ∧ FrameGivenUp armed earlier)

/-- What is known of the fence in each phase. -/
def FenceKnown (armed : γ → Prop) (s : γ) (history : List (Exchange (Graphics τ ρ) γ)) :
    Phase → Prop
  | .resting => ¬armed s ↔ FrameGivenUp armed history
  | .waited | .acquired _ | .recording _ | .recorded _ =>
    ¬armed s ∧ ¬FrameGivenUp armed history
  | .late => armed s ∧ ¬FrameGivenUp armed history
  | .leaving | .gone => True

private theorem fenceKnown_of_same {armed : γ → Prop} {phase : Phase} {s t : γ}
    {history : List (Exchange (Graphics τ ρ) γ)} {x : Exchange (Graphics τ ρ) γ}
    (same : armed t ↔ armed s) (known : FenceKnown armed s history phase)
    (goesOn : ¬x.GivesUp armed) (renewsNot : ¬x.Renews) :
    FenceKnown armed t (x :: history) phase := by
  have kept : FrameGivenUp armed (x :: history) ↔ FrameGivenUp armed history := by
    simp [FrameGivenUp, goesOn, renewsNot]
  cases phase with
  | leaving => exact trivial
  | gone => exact trivial
  | _ => simpa only [FenceKnown, kept, same] using known

/-- What is known of the fence stays true along the protocol. -/
theorem fenceKnown_next {armed : γ → Prop} {p : Position τ} {s t : γ}
    {history : List (Exchange (Graphics τ ρ) γ)} {call : GraphicsCall τ} {reply : call.Reply ρ}
    (rule : FenceRule call reply (armed s) (armed t)) (known : FenceKnown armed s history p.phase)
    (allowed : p.Allows call) :
    FenceKnown armed t (⟨call, reply, t⟩ :: history) (p.next call reply).phase := by
  obtain ⟨phase, held, owed⟩ := p
  cases call with
  | extent => exact fenceKnown_of_same rule known id id
  | waitForPrevious =>
    obtain ⟨rfl, -⟩ := allowed
    cases reply with
    | ok => exact ⟨rule, by simp [FrameGivenUp, Exchange.GivesUp, Exchange.Renews]⟩
    | error e => exact fenceKnown_of_same rule known id id
  | acquire =>
    obtain ⟨rfl, -⟩ := allowed
    cases reply with
    | ok image => exact fenceKnown_of_same rule known id id
    | error e =>
      have rule : armed t := rule
      by_cases late : e = .outOfDate
      · simpa [Position.next, late, FenceKnown, FrameGivenUp, Exchange.GivesUp, Exchange.Renews,
          rule] using known.2
      · simpa [Position.next, late, FenceKnown, FrameGivenUp, Exchange.GivesUp, Exchange.Renews,
          rule] using known.2
  | beginPass image clear =>
    obtain rfl := allowed
    cases reply with
    | ok recording => exact fenceKnown_of_same rule known id id
    | error e =>
      have rule : armed t ↔ armed s := rule
      simpa [Position.next, FenceKnown, FrameGivenUp, Exchange.GivesUp, rule] using known.1
  | endPass =>
    obtain ⟨image, rfl⟩ := allowed
    cases reply with
    | ok => exact fenceKnown_of_same rule known id id
    | error e =>
      have rule : armed t ↔ armed s := rule
      simpa [Position.next, FenceKnown, FrameGivenUp, Exchange.GivesUp, rule] using known.1
  | present image =>
    obtain rfl := allowed
    cases reply with
    | ok outcome =>
      have rule : armed t := rule
      simpa [Position.next, FenceKnown, FrameGivenUp, Exchange.GivesUp, Exchange.Renews, rule]
        using known.2
    | error e =>
      have forgotten : ¬FrameGivenUp armed history := known.2
      simp [Position.next, FenceKnown, FrameGivenUp, Exchange.GivesUp, Exchange.Renews, forgotten]
  | rebuild extent =>
    cases reply with
    | ok =>
      have rule : armed t := rule
      simp [Position.next, FenceKnown, FrameGivenUp, Exchange.GivesUp, Exchange.Renews, rule]
    | error e =>
      have rule : armed t ↔ armed s := rule
      obtain rfl | rfl := allowed
      · exact fenceKnown_of_same rule known id id
      · have known : armed s ∧ ¬FrameGivenUp armed history := known
        simp [Position.next, FenceKnown, FrameGivenUp, Exchange.GivesUp, Exchange.Renews, rule,
          known]
  | createTexture pixels => cases reply <;> exact fenceKnown_of_same rule known id id
  | updateTexture texture pixels => exact fenceKnown_of_same rule known id id
  | releaseTexture texture => exact fenceKnown_of_same rule known id id
  | binding texture => exact fenceKnown_of_same rule known id id
  | waitIdle =>
    obtain rfl | ⟨image, rfl⟩ := allowed
    · exact fenceKnown_of_same rule known id id
    · exact trivial
  | tearDown => exact trivial

/-- Whatever is asked of a renderer, and whatever fails: at a wait the fence is stranded exactly
when the last frame was given up and no rebuild succeeded since. -/
theorem wait_stranded_iff {W : Program.World (Graphics τ ρ) γ} {armed : γ → Prop}
    (fenced : W.Fenced armed) {s t : γ} (start : armed s) (clearColor : Color)
    (requests : List Renderer.Request) {history : List (Exchange (Graphics τ ρ) γ)}
    (waits : (Renderer.serve requests { clearColor }).Makes W.recorded (s, []) .waitForPrevious
      (t, history)) :
    ¬armed t ↔ FrameGivenUp armed history := by
  have follows := Contract.serve_follows (ρ := ρ) (Renderer.tidy_new (τ := τ) clearColor) requests
  have reached := follows.recorded (fun p s history => FenceKnown armed s history p.phase) ?_ ?_
    waits
  -- The protocol lets a wait come only where the renderer rests.
  · obtain ⟨p, ⟨resting, -⟩, known⟩ := reached
    rwa [resting] at known
  · intro p s history call reply t known allowed step
    exact ⟨_, rfl, fenceKnown_next (fenced _ _ _ _ step) known allowed⟩
  · simpa [FenceKnown, Renderer.position, Renderer.phase, FrameGivenUp] using start

/-- A stack that replies what it likes and does to its fence what the rule allows. -/
def looseStack (τ ρ : Type) : Program.World (Graphics τ ρ) Bool where
  step s call reply t := FenceRule call reply (s = true) (t = true)

/-- The loose stack keeps the rule, and nothing else. -/
theorem looseStack_fenced : (looseStack τ ρ).Fenced (· = true) := fun _ _ _ _ rule => rule

/-- A first frame whose pass cannot be begun. -/
def failedPass : List (Exchange (Graphics Unit Unit) Bool) :=
  [⟨.beginPass 0 .black, .error .timeout, false⟩, ⟨.acquire, .ok ⟨0, false⟩, false⟩,
    ⟨.waitForPrevious, .ok (), false⟩]

private theorem waits_after_failedPass :
    (Renderer.serve [.beginFrame, .beginFrame] { clearColor := .black }).Makes
      (looseStack Unit Unit).recorded (true, []) .waitForPrevious (false, failedPass) := by
  refine .call (.ok ()) (false, failedPass.drop 2) ⟨Bool.false_ne_true, rfl⟩ ?_
  refine .call (.ok ⟨0, false⟩) (false, failedPass.drop 1) ⟨Iff.rfl, rfl⟩ ?_
  refine .call (.error .timeout) (false, failedPass) ⟨Iff.rfl, rfl⟩ ?_
  exact .here

/-- The wait after a pass that could not be begun finds the fence unsignaled. -/
theorem wait_stranded_after_failedPass :
    ¬false = true ↔ FrameGivenUp (· = true) failedPass :=
  wait_stranded_iff looseStack_fenced rfl .black [.beginFrame, .beginFrame] waits_after_failedPass

/-- Not every wait finds the fence armed. -/
theorem exists_stranded_wait :
    ¬∀ (requests : List Renderer.Request) (t : Bool)
      (history : List (Exchange (Graphics Unit Unit) Bool)),
      (Renderer.serve requests { clearColor := .black }).Makes (looseStack Unit Unit).recorded
        (true, []) .waitForPrevious (t, history) → t = true := by
  intro armed
  exact Bool.false_ne_true (armed _ _ _ waits_after_failedPass)

end PaintPresenter
