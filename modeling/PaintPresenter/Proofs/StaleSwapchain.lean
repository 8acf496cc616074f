import PaintPresenter.Proofs.Protocol

/-!
# Frames on a stale swapchain

A swapchain that was reported not to fit its surface is stale until a rebuild succeeds. The
renderer writes down the report of a suboptimal image and of a present, and repeats a rebuild that
fails. Two reports are forgotten: an acquire that finds the swapchain out of date, when the rebuild
that follows at once fails, and a present that fails for the same reason and does not say so in its
outcome. `stale_iff_forgotten` says that a frame goes on with a stale swapchain in these cases and
in no other.
-/

namespace PaintPresenter

variable {τ ρ γ : Type}

namespace Exchange

/-- The swapchain is reported not to fit its surface. -/
def Reports : Exchange (Graphics τ ρ) γ → Prop
  | ⟨.acquire, .ok image, _⟩ => image.suboptimal = true
  | ⟨.acquire, .error e, _⟩ => e = .outOfDate
  | ⟨.present _, .ok outcome, _⟩ => outcome ≠ .presented
  | ⟨.present _, .error e, _⟩ => e = .outOfDate
  | _ => False

/-- The swapchain is made anew. -/
def Rebuilds : Exchange (Graphics τ ρ) γ → Prop
  | ⟨.rebuild _, .ok (), _⟩ => True
  | _ => False

end Exchange

/-- A report was made and no rebuild succeeded since. Exchanges are listed latest first. -/
def Stale : List (Exchange (Graphics τ ρ) γ) → Prop
  | [] => False
  | x :: earlier => x.Reports ∨ (¬x.Rebuilds ∧ Stale earlier)

/-- The last call, apart from questions for the size, was an acquire that found the swapchain out
of date. -/
def AcquireWasLate : List (Exchange (Graphics τ ρ) γ) → Prop
  | ⟨.extent, _, _⟩ :: earlier => AcquireWasLate earlier
  | ⟨.acquire, .error e, _⟩ :: _ => e = .outOfDate
  | _ => False

/-- After these earlier exchanges, the call fails in a way that loses a report. -/
def Exchange.Forgets (earlier : List (Exchange (Graphics τ ρ) γ)) :
    Exchange (Graphics τ ρ) γ → Prop
  | ⟨.rebuild _, .error _, _⟩ => AcquireWasLate earlier
  | ⟨.present _, .error e, _⟩ => e = .outOfDate
  | _ => False

/-- A report was lost and no rebuild succeeded since. -/
def ReportForgotten : List (Exchange (Graphics τ ρ) γ) → Prop
  | [] => False
  | x :: earlier => x.Forgets earlier ∨ (¬x.Rebuilds ∧ ReportForgotten earlier)

private theorem stale_of_late {history : List (Exchange (Graphics τ ρ) γ)}
    (late : AcquireWasLate history) : Stale history := by
  induction history with
  | nil => exact late
  | cons x earlier ih =>
    obtain ⟨call, reply, after⟩ := x
    cases call with
    | extent => exact .inr ⟨id, ih late⟩
    | acquire =>
      cases reply with
      | ok image => exact late.elim
      | error e => exact .inl late
    | _ => exact late.elim

/-- Only what was reported can be forgotten. -/
theorem stale_of_forgotten {history : List (Exchange (Graphics τ ρ) γ)}
    (forgotten : ReportForgotten history) : Stale history := by
  induction history with
  | nil => exact forgotten
  | cons x earlier ih =>
    obtain lost | ⟨rebuildsNot, forgotten⟩ := forgotten
    · obtain ⟨call, reply, after⟩ := x
      cases call with
      | rebuild extent =>
        cases reply with
        | ok => exact lost.elim
        | error e => exact .inr ⟨id, stale_of_late lost⟩
      | present image =>
        cases reply with
        | ok outcome => exact lost.elim
        | error e => exact .inl lost
      | _ => exact lost.elim
    · exact .inr ⟨rebuildsNot, ih forgotten⟩

/-- What is known of the reports in each phase: each one is owed, forgotten, or about to be dealt
with. -/
def ReportsKnown (history : List (Exchange (Graphics τ ρ) γ)) (owed : Bool) : Phase → Prop
  | .late => AcquireWasLate history
  | .leaving | .gone => True
  | _ => Stale history → owed = true ∨ ReportForgotten history

private theorem owed_of_same {history : List (Exchange (Graphics τ ρ) γ)}
    {x : Exchange (Graphics τ ρ) γ} {before after : Bool}
    (known : Stale history → before = true ∨ ReportForgotten history)
    (quiet : x.Reports → after = true) (rebuildsNot : ¬x.Rebuilds)
    (kept : before = true → after = true) :
    Stale (x :: history) → after = true ∨ ReportForgotten (x :: history) := by
  rintro (reports | ⟨-, stale⟩)
  · exact .inl (quiet reports)
  · obtain owed | forgotten := known stale
    · exact .inl (kept owed)
    · exact .inr (.inr ⟨rebuildsNot, forgotten⟩)

private theorem reportsKnown_of_quiet {history : List (Exchange (Graphics τ ρ) γ)}
    {x : Exchange (Graphics τ ρ) γ} {owed : Bool} {phase : Phase}
    (known : ReportsKnown history owed phase) (notLate : phase ≠ .late) (quiet : ¬x.Reports)
    (rebuildsNot : ¬x.Rebuilds) : ReportsKnown (x :: history) owed phase := by
  cases phase with
  | late => exact absurd rfl notLate
  | leaving => exact trivial
  | gone => exact trivial
  | _ => exact owed_of_same known (fun reports => absurd reports quiet) rebuildsNot id

/-- What is known of the reports stays true along the protocol. -/
theorem reportsKnown_next {p : Position τ} {history : List (Exchange (Graphics τ ρ) γ)}
    {call : GraphicsCall τ} {reply : call.Reply ρ} {t : γ}
    (known : ReportsKnown history p.owed p.phase) (allowed : p.Allows call) :
    ReportsKnown (⟨call, reply, t⟩ :: history) (p.next call reply).owed
      (p.next call reply).phase := by
  obtain ⟨phase, held, owed⟩ := p
  cases call with
  | extent =>
    by_cases late : phase = .late
    · subst late
      exact known
    · exact reportsKnown_of_quiet known late id id
  | waitForPrevious =>
    obtain ⟨rfl, -⟩ := allowed
    cases reply with
    | ok => exact owed_of_same known False.elim id id
    | error e => exact owed_of_same known False.elim id id
  | acquire =>
    obtain ⟨rfl, -⟩ := allowed
    cases reply with
    | ok image =>
      refine owed_of_same known ?_ id ?_
      · intro suboptimal
        have suboptimal : image.suboptimal = true := suboptimal
        simp [Position.next, suboptimal]
      · rintro rfl
        exact Bool.or_true _
    | error e =>
      by_cases late : e = .outOfDate
      · subst late
        exact rfl
      · simp only [Position.next, if_neg late]
        exact owed_of_same known (fun reports => absurd reports late) id id
  | beginPass image clear =>
    obtain rfl := allowed
    cases reply with
    | ok recording => exact owed_of_same known False.elim id id
    | error e => exact owed_of_same known False.elim id id
  | endPass =>
    obtain ⟨image, rfl⟩ := allowed
    cases reply with
    | ok => exact owed_of_same known False.elim id id
    | error e => exact owed_of_same known False.elim id id
  | present image =>
    obtain rfl := allowed
    cases reply with
    | ok outcome =>
      refine owed_of_same known ?_ id ?_
      · intro reported
        have reported : outcome ≠ .presented := reported
        simp [Position.next, reported]
      · rintro rfl
        exact Bool.or_true _
    | error e =>
      by_cases late : e = .outOfDate
      · exact fun _ => .inr (.inl late)
      · exact owed_of_same known (fun reports => absurd reports late) id id
  | rebuild extent =>
    cases reply with
    | ok =>
      rintro (reports | ⟨rebuildsNot, -⟩)
      · exact reports.elim
      · exact absurd trivial rebuildsNot
    | error e =>
      obtain rfl | rfl := allowed
      · exact owed_of_same known False.elim id id
      · exact fun _ => .inr (.inl known)
  | createTexture pixels =>
    obtain ⟨rfl, -⟩ := allowed
    cases reply with
    | ok texture => exact owed_of_same known False.elim id id
    | error e => exact owed_of_same known False.elim id id
  | updateTexture texture pixels =>
    obtain ⟨rfl, -⟩ := allowed
    exact owed_of_same known False.elim id id
  | releaseTexture texture =>
    obtain ⟨rfl | rfl, -⟩ := allowed
    · exact owed_of_same known False.elim id id
    · exact trivial
  | binding texture =>
    obtain ⟨rfl | ⟨image, rfl⟩, -⟩ := allowed
    · exact owed_of_same known False.elim id id
    · exact owed_of_same known False.elim id id
  | waitIdle =>
    obtain rfl | ⟨image, rfl⟩ := allowed
    · exact owed_of_same known False.elim id id
    · exact trivial
  | tearDown => exact trivial

/-- Whatever is asked of a renderer, and whatever fails: a frame waits and acquires with a stale
swapchain exactly when a report was forgotten. -/
theorem stale_iff_forgotten {W : Program.World (Graphics τ ρ) γ} {s t : γ} (clearColor : Color)
    (requests : List Renderer.Request) {call : GraphicsCall τ}
    {history : List (Exchange (Graphics τ ρ) γ)}
    (goesOn : call = .waitForPrevious ∨ call = .acquire)
    (makes : (Renderer.serve requests { clearColor }).Makes W.recorded (s, []) call (t, history)) :
    Stale history ↔ ReportForgotten history := by
  have follows := Contract.serve_follows (ρ := ρ) (Renderer.tidy_new (τ := τ) clearColor) requests
  have reached := follows.recorded (fun p _ history => ReportsKnown history p.owed p.phase) ?_ ?_
    makes
  · obtain ⟨p, allowed, known⟩ := reached
    refine ⟨fun stale => ?_, stale_of_forgotten⟩
    obtain ⟨phase, held, owed⟩ := p
    -- The protocol lets a frame go on only where no rebuild is owed.
    have settled : owed = false ∧ (phase = .resting ∨ phase = .waited) := by
      obtain rfl | rfl := goesOn
      · exact ⟨allowed.2, .inl allowed.1⟩
      · exact ⟨allowed.2, .inr allowed.1⟩
    obtain ⟨rfl, rfl | rfl⟩ := settled
    · exact (known stale).resolve_left Bool.false_ne_true
    · exact (known stale).resolve_left Bool.false_ne_true
  · intro p _ history call reply t known allowed step
    exact ⟨_, rfl, reportsKnown_next known allowed⟩
  · exact fun stale => stale.elim

/-- A first frame that finds the swapchain out of date and cannot rebuild it, and the wait of the
second one. -/
def failedRebuild : List (Exchange (Graphics Unit Unit) Unit) :=
  [⟨.waitForPrevious, .ok (), ()⟩, ⟨.rebuild ⟨4, 4⟩, .error .timeout, ()⟩, ⟨.extent, ⟨4, 4⟩, ()⟩,
    ⟨.acquire, .error .outOfDate, ()⟩, ⟨.waitForPrevious, .ok (), ()⟩]

private theorem acquires_after_failedRebuild :
    (Renderer.serve [.beginFrame, .beginFrame] { clearColor := .black }).Makes
      (anyStack Unit Unit).recorded ((), []) .acquire ((), failedRebuild) := by
  refine .call (.ok ()) ((), failedRebuild.drop 4) ⟨trivial, rfl⟩ ?_
  refine .call (.error .outOfDate) ((), failedRebuild.drop 3) ⟨trivial, rfl⟩ ?_
  refine .note ?_
  refine .call ⟨4, 4⟩ ((), failedRebuild.drop 2) ⟨trivial, rfl⟩ ?_
  refine .call (.error .timeout) ((), failedRebuild.drop 1) ⟨trivial, rfl⟩ ?_
  refine .call (.ok ()) ((), failedRebuild) ⟨trivial, rfl⟩ ?_
  exact .here

/-- The second frame acquires from the stale swapchain that the first one could not rebuild. -/
theorem stale_after_failedRebuild : Stale failedRebuild ↔ ReportForgotten failedRebuild :=
  stale_iff_forgotten .black [.beginFrame, .beginFrame] (.inr rfl) acquires_after_failedRebuild

/-- Not every acquire is made from a swapchain that fits. -/
theorem exists_stale_acquire :
    ¬∀ (requests : List Renderer.Request) (history : List (Exchange (Graphics Unit Unit) Unit)),
      (Renderer.serve requests { clearColor := .black }).Makes (anyStack Unit Unit).recorded
        ((), []) .acquire ((), history) → ¬Stale history := by
  intro fits
  apply fits _ _ acquires_after_failedRebuild
  simp [failedRebuild, Stale, Exchange.Reports, Exchange.Rebuilds]

end PaintPresenter
