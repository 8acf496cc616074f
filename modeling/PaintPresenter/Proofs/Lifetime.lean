import PaintPresenter.Proofs.StackCustody

/-!
# The life of a stack

A stack is made, a renderer serves requests on it, and both are dropped. Whatever the driver lets
fail on the way, what was made is released once, every object before what it needs, and nothing is
left in the end.
-/

namespace PaintPresenter.Vulkan

open Contract

variable {s t : Holdings} {stack : Stack} {r : Renderer SampledImage}

/-- Nothing is left of what was made: each object was released as often as it was made. -/
structure Holdings.Settled (s : Holdings) : Prop where
  gone : ∀ o, ¬s.Exists o
  unmapped : s.mapped = []
  once : s.made.Perm s.released

/-- A new renderer serves requests on a stack. -/
def attend (clearColor : Color) (requests : List Renderer.Request) (stack : Stack) :
    Program Driver (Renderer SampledImage × Stack) := do
  let (((), r), stack) ← (Renderer.serve requests { clearColor }).interpret Stack.answer stack
  return (r, stack)

/-- A renderer is dropped and then its stack. -/
def discard (r : Renderer SampledImage) (stack : Stack) : Program Driver Unit := do
  let (_, stack) ← (Renderer.close r).interpret Stack.answer stack
  let _ ← Stack.close stack

/-- The whole life of a stack, from its making to its drop. -/
def life (handles : NativeHandles) (settings : GraphicsSettings) (clearColor : Color)
    (requests : List Renderer.Request) : Driver.Task Unit := do
  let stack ← Stack.create handles settings
  let (r, stack) ← ExceptT.lift (attend clearColor requests stack)
  ExceptT.lift (discard r stack)

/-- When nothing is left, everything made was released once. -/
theorem Holds.settled (h : Holds s []) : s.Settled where
  gone o here := absurd (h.exists_iff.mp here) List.not_mem_nil
  unmapped := h.unmapped
  once := by
    have account := h.account
    rw [objects_nil, List.append_nil] at account
    exact account

/-- Where a renderer does nothing at the moment, the book shows what it and its stack hold. -/
def Attended (r : Renderer SampledImage) (stack : Stack) (s : Holdings) : Prop :=
  r.Tidy ∧ Accounts r.position stack s

/-- Every call of a renderer is answered by calls that fit the book. -/
theorem custody_interpret {α : Type} {p : Program (Graphics SampledImage Recording) α}
    {position : Position SampledImage} {post : α → Position SampledImage → Prop}
    (follows : (protocol SampledImage Recording).Keeps p position post)
    (accounts : Accounts position stack s) :
    custody.Keeps (p.interpret Stack.answer stack) s
      fun out t => ∃ q, Accounts q out.2 t ∧ post out.1 q := by
  apply follows.interpret Accounts _ accounts
  intro q stack s call accounts allowed
  exact (stackAnswer_accounts accounts allowed).mono fun out t accounts => ⟨_, rfl, accounts⟩

private theorem custody_attend (standing : stack.tornDown = false) (stands : Stands none stack s)
    (clearColor : Color) (requests : List Renderer.Request) :
    custody.Keeps (attend clearColor requests stack) s fun out t => Attended out.1 out.2 t := by
  have follows := serve_follows (ρ := Recording) (Renderer.tidy_new (τ := SampledImage) clearColor)
    requests
  have accounts : Accounts (Renderer.position { clearColor }) stack s := ⟨standing, stands⟩
  rw [attend, keeps_bind]
  apply (custody_interpret follows accounts).mono
  rintro ⟨⟨_, r⟩, stack⟩ t ⟨_, accounts, rfl, tidy⟩
  exact ⟨tidy, accounts⟩

/-- Of a renderer that was shut down nothing is left. -/
theorem Attended.settled (attended : Attended r stack s) (closed : r.closed = true) :
    s.Settled := by
  have accounts := attended.2
  rw [Renderer.position_of_closed closed] at accounts
  exact accounts.2.settled

/-- A stack that is discarded leaves nothing behind. -/
theorem custody_discard (attended : Attended r stack s) :
    custody.Keeps (discard r stack) s fun _ t => t.Settled := by
  rw [discard, keeps_bind]
  apply (custody_interpret (close_follows attended.1) attended.2).mono
  rintro ⟨_, stack⟩ t ⟨⟨_, held, owed⟩, accounts, rfl⟩
  -- The renderer has taken its stack down, so that closing the stack finds nothing to do.
  obtain ⟨tornDown, h⟩ := accounts
  rw [keeps_bind, Stack.close, if_pos tornDown]
  exact h.settled

private theorem custody_life (handles : NativeHandles) (settings : GraphicsSettings)
    (clearColor : Color) (requests : List Renderer.Request) :
    custody.KeepsTask (life handles settings clearColor requests) {} (fun _ t => t.Settled)
      fun _ t => t.Settled := by
  rw [life, keepsTask_bind]
  refine (custody_createStack holds_empty handles settings).mono ?_ fun _ t h => h.settled
  rintro stack t ⟨standing, stands⟩
  rw [keepsTask_bind, keepsTask_lift]
  apply (custody_attend standing stands clearColor requests).mono
  intro out t attended
  rw [keepsTask_lift]
  exact custody_discard attended

/-- Whatever is asked of a renderer on a stack, and whatever the driver lets fail, every call fits
the book: nothing is released that is not there, that is mapped, or that something else needs. When
the stack cannot be made, when the renderer is shut down and when both are dropped, everything that
was made has been released once. -/
theorem released_once_in_order (handles : NativeHandles) (settings : GraphicsSettings)
    (clearColor : Color) (requests : List Renderer.Request) :
    (∀ call t, (life handles settings clearColor requests).run.Makes custody.toWorld {} call t →
      t.Proper call) ∧
    (∀ e t, (Stack.create handles settings).run.Ends custody.toWorld {} (.error e) t →
      t.Settled) ∧
    (∀ stack s r after t,
      (Stack.create handles settings).run.Ends custody.toWorld {} (.ok stack) s →
      (attend clearColor requests stack).Ends custody.toWorld s (r, after) t →
      r.closed = true → t.Settled) ∧
    ∀ result t, (life handles settings clearColor requests).run.Ends custody.toWorld {} result t →
      t.Settled := by
  have created := custody_createStack holds_empty handles settings
  have kept : custody.Keeps (life handles settings clearColor requests).run {}
      fun _ t => t.Settled := keepsTask_run.mpr (custody_life handles settings clearColor requests)
  refine ⟨fun call t makes => ?_, fun e t ends => ?_, fun stack s r after t made ends closed => ?_,
    fun result t ends => ?_⟩
  · exact kept.permits makes
  · exact (created.ends_error ends).settled
  · obtain ⟨standing, stands⟩ := created.ends_ok made
    have attended := (custody_attend standing stands clearColor requests).ends ends
    exact attended.settled closed
  · exact kept.ends ends

/-! ## A life on a driver that runs out of room -/

/-- Lets everything succeed until a number of objects has been made. -/
def Holdings.indulge (room : Nat) : (c : DriverCall) → Holdings → Except Fault c.Reply × Holdings
  | .create request, s =>
    let made : Handle request.kind := ⟨s.made.length + 1⟩
    if s.made.length ≥ room then (.ok (.error ⟨-2⟩), s)
    else if s.live made.object = none then (.ok (.ok made), s.make made.object (s.needs request))
    else (.error .overflow, s)
  | .release o, s => (.ok (), s.drop o)
  | .freeCommands _ buffer, s => (.ok (), s.drop buffer.object)
  | .swapchainImages swapchain, s =>
    let image : Handle .image := ⟨s.made.length + 1⟩
    if s.live image.object = none then
      (.ok (.ok [image]), { s with images := (image, swapchain) :: s.images })
    else (.error .overflow, s)
  | .perform (.bindBuffer buffer memory _), s => (.ok (.ok ()), s.bind buffer.object memory)
  | .perform (.bindImage image memory _), s => (.ok (.ok ()), s.bind image.object memory)
  | .perform (.mapMemory memory _ _), s => (.ok (.ok ()), { s with mapped := memory :: s.mapped })
  | .unmap memory, s => (.ok (), { s with mapped := s.mapped.erase memory })
  | c, s => (.ok (c.granted 0), s)

/-- The indulgent driver does what the book allows. -/
theorem custody_allows_indulge (room : Nat) : custody.Allows (Holdings.indulge room) := by
  intro c s reply answered
  cases c with
  | create request =>
    rw [Holdings.indulge] at answered ⊢
    by_cases full : s.made.length ≥ room
    · rw [if_pos full] at answered ⊢
      obtain rfl := Except.ok.inj answered
      exact rfl
    · rw [if_neg full] at answered ⊢
      by_cases fresh : s.live (⟨s.made.length + 1⟩ : Handle request.kind).object = none
      · rw [if_pos fresh] at answered ⊢
        obtain rfl := Except.ok.inj answered
        exact ⟨by simp [Handle.null], fresh, rfl⟩
      · rw [if_neg fresh] at answered
        exact absurd answered (by simp)
  | swapchainImages swapchain =>
    rw [Holdings.indulge] at answered ⊢
    by_cases fresh : s.live (⟨s.made.length + 1⟩ : Handle .image).object = none
    · rw [if_pos fresh] at answered ⊢
      obtain rfl := Except.ok.inj answered
      exact ⟨by simp [fresh], rfl⟩
    · rw [if_neg fresh] at answered
      exact absurd answered (by simp)
  | perform operation =>
    cases operation with
    | _ =>
      obtain rfl := Except.ok.inj answered
      exact rfl
  | _ =>
    obtain rfl := Except.ok.inj answered
    exact rfl

/-- A stack made where there is room for 17 objects. -/
def crampedRun : Program.Run Holdings (Except GraphicsError Stack) :=
  (Stack.create ⟨.ok .wayland, .ok .wayland⟩ {}).run.run (Holdings.indulge 17) {}

/-- An upload of one pixel, for which the room does not suffice, and a shutdown. -/
def crampedRequests : List Renderer.Request :=
  [.upload ⟨⟨1, 1⟩, .rgba, ⟨#[0, 0, 0, 255]⟩, rfl, rfl⟩, .shutdown]

/-- How these requests end on a stack. -/
def crampedUse (stack : Stack) : Program.Run Holdings (Renderer SampledImage × Stack) :=
  (attend .black crampedRequests stack).run (Holdings.indulge 17) crampedRun.state

/-- The stack, what is left of renderer and stack, and the book. -/
def crampedEnd? : Option (Stack × (Renderer SampledImage × Stack) × Holdings) :=
  match crampedRun.result with
  | .ok (.ok stack) =>
    match (crampedUse stack).result with
    | .ok out => some (stack, out, (crampedUse stack).state)
    | .error _ => none
  | _ => none

private theorem of_crampedEnd {stack : Stack} {out : Renderer SampledImage × Stack} {t : Holdings}
    (h : crampedEnd? = some (stack, out, t)) :
    crampedRun.result = .ok (.ok stack) ∧ (crampedUse stack).result = .ok out ∧
      (crampedUse stack).state = t := by
  unfold crampedEnd? at h
  split at h
  · next _ created =>
    split at h
    · next _ used =>
      obtain ⟨rfl, rfl, rfl⟩ := by simpa using h
      exact ⟨created, used, rfl⟩
    · exact absurd h (by simp)
  · exact absurd h (by simp)

/-- A driver that has room for 17 objects refuses more, and those 17 are released once each. -/
theorem released_once_without_room :
    ∃ (stack after : Stack) (r : Renderer SampledImage) (t : Holdings),
      (attend .black crampedRequests stack).Ends custody.toWorld crampedRun.state (r, after) t ∧
        r.closed = true ∧ t.made.length = 17 ∧ t.Settled := by
  have reached : crampedEnd?.map (fun (_, out, t) => (out.1.closed, t.made.length)) =
      some (true, 17) := by decide +kernel
  obtain ⟨⟨stack, ⟨r, after⟩, t⟩, found, outcome⟩ := Option.map_eq_some_iff.mp reached
  obtain ⟨closed, count⟩ := Prod.mk.inj outcome
  obtain ⟨created, used, rfl⟩ := of_crampedEnd found
  have made := (custody_allows_indulge 17).ends created
  have ends : (attend .black crampedRequests stack).Ends custody.toWorld crampedRun.state
      (r, after) (crampedUse stack).state := (custody_allows_indulge 17).ends used
  obtain ⟨-, -, settled, -⟩ := released_once_in_order ⟨.ok .wayland, .ok .wayland⟩ {} .black
    crampedRequests
  have left := settled stack crampedRun.state r after _ made ends closed
  exact ⟨stack, after, r, (crampedUse stack).state, ends, closed, count, left⟩

end PaintPresenter.Vulkan
