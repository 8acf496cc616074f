import PaintPresenter.Proofs.HostConduct
import PaintPresenter.Proofs.LoopTurns
import PaintPresenter.Proofs.Lifetime
import PaintPresenter.Proofs.MadeKinds

/-!
# A window and what is made for it

The window system's windows and the driver's objects in one book. A window is made while there is
nothing, everything else is made for the one window that there is, and the window is dropped when
there is nothing else left. Every operation of a window keeps to that, also when making its renderer
fails and when the device does not go idle.
-/

namespace PaintPresenter

open Desktop

namespace Vulkan

namespace Holdings

variable {s t : Holdings}

private theorem exists_update {o p : Object} {needs : Option (List Object)}
    (here : (Function.update s.live p needs o).isSome = true)
    (known : needs.isSome = true → s.Exists p) : s.Exists o := by
  by_cases same : o = p
  · subst same
    rw [Function.update_self] at here
    exact known here
  · rw [Function.update_of_ne same] at here
    exact here

/-- What exists after a call existed before or was made by it. -/
theorem exists_of_effect {c : DriverCall} {reply : c.Reply} (effect : s.Effect c reply t)
    {o : Object} (here : t.Exists o) : s.Exists o ∨ c.made? reply = some o := by
  cases c with
  | create request =>
    cases reply with
    | error result => exact .inl ((show t = s from effect) ▸ here)
    | ok made =>
      obtain ⟨-, -, rfl⟩ := effect
      by_cases same : o = made.object
      · exact .inr (congrArg some same.symm)
      · left
        have here : (Function.update s.live made.object (some (s.needs request)) o).isSome = true :=
          here
        rwa [Function.update_of_ne same] at here
  | release p =>
    obtain rfl : t = s.drop p := effect
    exact .inl (exists_update here (by simp))
  | freeCommands pool buffer =>
    obtain rfl : t = s.drop buffer.object := effect
    exact .inl (exists_update here (by simp))
  | swapchainImages swapchain =>
    cases reply with
    | error result => exact .inl ((show t = s from effect) ▸ here)
    | ok images =>
      obtain ⟨-, rfl⟩ := effect
      exact .inl here
  | perform operation =>
    cases operation with
    | bindBuffer buffer memory offset =>
      cases reply with
      | error result => exact .inl ((show t = s from effect) ▸ here)
      | ok _ =>
        obtain rfl : t = s.bind buffer.object memory := effect
        exact .inl (exists_update here (by simp [Exists]))
    | bindImage image memory offset =>
      cases reply with
      | error result => exact .inl ((show t = s from effect) ▸ here)
      | ok _ =>
        obtain rfl : t = s.bind image.object memory := effect
        exact .inl (exists_update here (by simp [Exists]))
    | mapMemory memory offset bytes =>
      cases reply with
      | error result => exact .inl ((show t = s from effect) ▸ here)
      | ok _ =>
        obtain rfl : t = { s with mapped := memory :: s.mapped } := effect
        exact .inl here
    | _ => exact .inl ((show t = s from effect) ▸ here)
  | unmap memory =>
    obtain rfl : t = { s with mapped := s.mapped.erase memory } := effect
    exact .inl here
  | _ => exact .inl ((show t = s from effect) ▸ here)

/-- Of what is settled, nothing is listed. -/
theorem Settled.holds (settled : s.Settled) : Holds s [] where
  live o needs := by
    have gone := settled.gone o
    unfold Exists at gone
    simp only [List.not_mem_nil, iff_false]
    intro found
    exact gone (by rw [found]; rfl)
  distinct := .nil
  real _ mem := absurd mem List.not_mem_nil
  closed _ mem := absurd mem List.not_mem_nil
  ordered := .nil
  unmapped := settled.unmapped
  account := by simpa using settled.once

end Holdings

end Vulkan

open Vulkan

/-! ## The book of a household -/

/-- The windows and the driver's objects. -/
structure Household where
  /-- The windows that are there. -/
  live : List WindowId := []
  /-- All windows that were made, latest first. -/
  opened : List WindowId := []
  book : Holdings := {}

namespace Household

variable {x y : Household}

/-- A window is made while there is nothing, and dropped when nothing else is left. What the driver
does is done for a window, and an instance is made while no object is there. -/
def Allows (x : Household) : WorldCall → Prop
  | .driver call => x.live ≠ [] ∧ x.book.Proper call ∧
    ∀ request, call = .create request → request.kind = .apiInstance → ∀ o, ¬x.book.Exists o
  | .createWindow _ _ => x.live = [] ∧ x.book.Settled
  | .dropWindow id => x.live = [id] ∧ x.book.Settled
  | .windowSize id => x.live = [id]
  | .nativeHandles id => x.live = [id]
  | .requestRedraw id => x.live = [id]
  | .announcePresent id => x.live = [id]
  | _ => True

/-- What a call and its reply do. A window that is made has a name that no other window has. -/
def Effect (x : Household) : (c : WorldCall) → c.Reply → Household → Prop
  | .driver call, reply, y => ∃ book, x.book.Effect call reply book ∧ y = { x with book }
  | .createWindow _ _, .ok id, y =>
    id ∉ x.live ∧ y = { x with live := id :: x.live, opened := id :: x.opened }
  | .dropWindow id, (), y => y = { x with live := x.live.erase id }
  | _, _, y => y = x

/-- There is one window at most, and one instance at most; without a window there is nothing. -/
structure Single (x : Household) : Prop where
  window : x.live.length ≤ 1
  housed : x.live = [] → ∀ o, ¬x.book.Exists o
  backend : ∀ o p, x.book.Exists o → x.book.Exists p → o.kind = .apiInstance →
    p.kind = .apiInstance → o = p

/-- At first there is no window and nothing else. -/
theorem single_empty : Single {} where
  window := Nat.zero_le 1
  housed _ _ here := Bool.false_ne_true here
  backend _ _ here := absurd here Bool.false_ne_true

private theorem Single.next {c : WorldCall} {reply : c.Reply} (single : x.Single)
    (allowed : x.Allows c) (effect : x.Effect c reply y) : y.Single := by
  cases c with
  | driver call =>
    obtain ⟨book, effect, rfl⟩ := effect
    obtain ⟨open_, -, alone⟩ := allowed
    refine ⟨single.window, fun shut => absurd shut open_, fun o p ho hp first second => ?_⟩
    -- An instance that is made is made where nothing is.
    have fresh {o p : Object} (made : call.made? reply = some o) (kind : o.kind = .apiInstance) :
        ¬x.book.Exists p := by
      obtain ⟨request, rfl, same⟩ := DriverCall.create_of_made made
      exact alone request rfl (same.symm.trans kind) p
    obtain ho | ho := Holdings.exists_of_effect effect ho
    · obtain hp | hp := Holdings.exists_of_effect effect hp
      · exact single.backend o p ho hp first second
      · exact absurd ho (fresh hp second)
    · obtain hp | hp := Holdings.exists_of_effect effect hp
      · exact absurd hp (fresh ho first)
      · exact Option.some.inj (ho.symm.trans hp)
  | createWindow title size =>
    cases reply with
    | error cause => exact (show y = x from effect) ▸ single
    | ok id =>
      obtain ⟨-, rfl⟩ := effect
      refine ⟨?_, fun shut => absurd shut (List.cons_ne_nil _ _), single.backend⟩
      rw [allowed.1]
      exact Nat.le_refl 1
  | dropWindow id =>
    obtain rfl : y = _ := effect
    exact ⟨Nat.le_trans List.length_erase_le single.window, fun _ => allowed.2.gone,
      single.backend⟩
  | _ => exact (show y = x from effect) ▸ single

end Household

/-- The world of a household. -/
def household : Contract World Household where
  step := Household.Effect
  permits := Household.Allows

namespace Contract

variable {x : Household} {α : Type}

/-- At every call that is made there is one window and one instance at most. -/
theorem Keeps.single {p : Program World α} {post : α → Household → Prop}
    (kept : household.Keeps p x post) (single : x.Single) {c : WorldCall} {y : Household}
    (makes : p.Makes household.toWorld x c y) : y.Single ∧ y.Allows c := by
  let guarded : Contract World Household :=
    { household with permits := fun y c => y.Single ∧ y.Allows c }
  have guards := kept.transfer (D := guarded) (u := x) (fun y z => y = z ∧ z.Single) ?_
    ⟨rfl, single⟩
  · exact guards.permits makes
  · rintro y _ c ⟨rfl, single⟩ allowed
    exact ⟨⟨single, allowed⟩, fun reply z effect =>
      ⟨z, effect, rfl, single.next allowed effect⟩⟩

/-! ## The driver in a household -/

private theorem exists_instanceFirst {s t : Holdings} {c : DriverCall} {reply : c.Reply}
    {made : Bool} (nothing : made = false → ∀ o, ¬s.Exists o) (effect : s.Effect c reply t) :
    ∃ after, instanceFirst.step made c reply after ∧ (after = false → ∀ o, ¬t.Exists o) := by
  cases c with
  | create request =>
    cases reply with
    | ok handle => exact ⟨true, rfl, fun same => absurd same Bool.noConfusion⟩
    | error result =>
      obtain rfl : t = s := effect
      exact ⟨made, rfl, nothing⟩
  | _ =>
    refine ⟨made, rfl, fun same o here => ?_⟩
    obtain before | new := Holdings.exists_of_effect effect here
    · exact nothing same o before
    · exact absurd new (by simp [DriverCall.made?])

/-- A program that keeps the driver's book and makes its instance first may be run while there is a
window. -/
theorem keeps_inHousehold {p : Program Driver α} {post : α → Holdings → Prop} {made : Bool}
    (open_ : x.live ≠ []) (kept : custody.Keeps p x.book post)
    (first : instanceFirst.Keeps p made fun _ _ => True)
    (nothing : made = false → ∀ o, ¬x.book.Exists o) :
    household.driverPart.Keeps p x fun a y => ∃ book, y = { x with book } ∧ post a book := by
  have both := (kept.both first).transfer (D := household.driverPart) (u := x)
    (fun s y => y = { x with book := s.1 } ∧ (s.2 = false → ∀ o, ¬s.1.Exists o)) ?_ ⟨rfl, nothing⟩
  · apply both.mono
    rintro a y ⟨s, ⟨rfl, -⟩, promised, -⟩
    exact ⟨s.1, rfl, promised⟩
  · rintro s y c ⟨rfl, nothing⟩ ⟨proper, early⟩
    refine ⟨⟨open_, proper, ?_⟩, ?_⟩
    · rintro request rfl same
      exact nothing (early same)
    · rintro reply z ⟨book, effect, rfl⟩
      obtain ⟨after, step, nothing⟩ := exists_instanceFirst nothing effect
      exact ⟨(book, after), ⟨effect, step⟩, rfl, nothing⟩

/-- The same for programs that may fail. -/
theorem keepsTask_inHousehold {ε : Type} {task : ExceptT ε (Program Driver) α}
    {good : α → Holdings → Prop} {bad : ε → Holdings → Prop} {made : Bool} (open_ : x.live ≠ [])
    (kept : custody.KeepsTask task x.book good bad)
    (first : instanceFirst.KeepsTask task made (fun _ _ => True) fun _ _ => True)
    (nothing : made = false → ∀ o, ¬x.book.Exists o) :
    household.driverPart.KeepsTask task x (fun a y => ∃ book, y = { x with book } ∧ good a book)
      fun e y => ∃ book, y = { x with book } ∧ bad e book :=
  (keeps_inHousehold open_ kept (Keeps.mono first fun _ _ _ => trivial) nothing).mono fun r _ => by
    cases r <;> exact id

/-- The same for programs that make no instance. -/
theorem keeps_inHousehold_of_making {p : Program Driver α} {post : α → Holdings → Prop}
    (open_ : x.live ≠ []) (kept : custody.Keeps p x.book post) {made : α → Unit → Prop}
    (others : (making (· ≠ .apiInstance)).Keeps p () made) :
    household.driverPart.Keeps p x fun a y => ∃ book, y = { x with book } ∧ post a book :=
  keeps_inHousehold open_ kept (instanceFirst_of_making others true)
    fun same => absurd same Bool.noConfusion

/-! ## A window in a household -/

/-- The open window of that name is the only one; no window was opened besides these, and the book
shows what its renderer and its stack hold. -/
structure Houses (id : WindowId) (opened : List WindowId) (w : OpenWindow) (x : Household) :
    Prop where
  named : w.id = id
  live : x.live = [id]
  opened : x.opened = opened
  attended : Attended w.renderer w.stack x.book

section Window

variable {id : WindowId} {opened : List WindowId} {w : OpenWindow}

private theorem Houses.open (h : Houses id opened w x) : x.live ≠ [] := by
  rw [h.live]
  exact List.cons_ne_nil _ _

/-- What keeps to the protocol of its stack keeps the book. -/
theorem houses_onRenderer (h : Houses id opened w x)
    {action : Renderer.Action SampledImage Recording α}
    (follows : (protocol SampledImage Recording).Keeps (action w.renderer) w.renderer.position
      fun out p => out.2.RestsAt p) :
    household.Keeps (OpenWindow.onRenderer action w) x fun out y => Houses id opened out.2 y := by
  rw [keeps_onRenderer]
  have kept := custody_interpret follows h.attended.2
  apply (keeps_inHousehold_of_making h.open kept
    (making_interpret (fun _ other => other) _ _)).mono
  rintro ⟨⟨_, r⟩, stack⟩ _ ⟨book, rfl, _, accounts, rfl, tidy⟩
  exact ⟨h.named, h.live, h.opened, tidy, accounts⟩

/-- A redraw may be asked for and changes nothing. -/
theorem houses_requestRedraw (h : Houses id opened w x) :
    household.Keeps (World.requestRedraw id) x fun _ y => y = x := by
  rw [keeps_requestRedraw]
  exact ⟨h.live, fun _ same => same⟩

/-- A resize keeps the house. -/
theorem houses_resize (h : Houses id opened w x) (size : Extent) :
    household.Keeps (OpenWindow.resize size w) x fun out y => Houses id opened out.2 y := by
  rw [keeps_windowResize]
  apply (houses_onRenderer h (perform_follows h.attended.1 (.requestSize size))).mono
  rintro ⟨_, w⟩ y h
  have named : w.id = id := h.named
  rw [named]
  apply (houses_requestRedraw h).mono
  rintro _ _ rfl
  exact h

private theorem houses_render (h : Houses id opened w x)
    (records : Drawing Recording → List LogRecord) :
    household.Keeps (OpenWindow.render records w) x fun out y => Houses id opened out.2 y := by
  unfold OpenWindow.render
  rw [keeps_bind, h.named]
  have follows := driveFrame_follows (ρ := Recording) h.attended.1
  refine Keeps.mono (Keeps.interpret
    (fun p e y => y.live = [id] ∧ y.opened = opened ∧ Accounts p e.stack y.book) ?_ follows
    ⟨h.live, h.opened, h.attended.2⟩) ?_
  · rintro p e y call ⟨live, made, accounts⟩ allowed
    cases call with
    | graphics call =>
      rw [keeps_answerLoop_graphics]
      have open_ : y.live ≠ [] := by simp [live]
      have kept := stackAnswer_accounts accounts allowed
      apply (keeps_inHousehold_of_making open_ kept (making_answer (fun _ other => other) _ _)).mono
      rintro out _ ⟨book, rfl, accounts⟩
      exact ⟨_, rfl, live, made, accounts⟩
    | draw frame binding =>
      rw [keeps_answerLoop_draw, keeps_announcePresent]
      refine ⟨live, ?_⟩
      rintro _ rfl
      exact ⟨p, rfl, live, made, accounts⟩
  · rintro ⟨⟨control, r⟩, easel⟩ y ⟨_, ⟨live, made, accounts⟩, rfl, tidy⟩
    exact ⟨rfl, live, made, tidy, accounts⟩

/-- Whatever an application asks for in a frame, the window is housed as before. -/
theorem houses_answer (h : Houses id opened w x) (request : FrameRequest) :
    household.Keeps (OpenWindow.answer request w) x fun out y => Houses id opened out.2 y := by
  have tidy := h.attended.1
  cases request with
  | uploadPaint =>
    rw [OpenWindow.answer, keeps_bind, keeps_collectPaint]
    refine ⟨trivial, ?_⟩
    rintro paint _ rfl
    exact houses_onRenderer h (keeps_run.mpr (uploadCollected_follows tidy paint))
  | render records => exact houses_render h records
  | windowSize =>
    rw [OpenWindow.answer, keeps_bind, h.named, keeps_windowSize]
    refine ⟨h.live, ?_⟩
    rintro extent _ rfl
    exact h
  | beginFrame => exact houses_onRenderer h (keeps_run.mpr (beginFrame_follows tidy))
  | shutdown =>
    have follows := shutdown_follows (ρ := Recording) tidy
    exact houses_onRenderer h (keeps_run.mpr (follows.mono (fun _ _ _ closed => closed.1)
      fun _ _ _ closed => closed.1))

/-- A window is closed when nothing else is left, also when the device does not go idle. -/
theorem houses_close (h : Houses id opened w x) :
    household.Keeps w.close x fun _ y => y.live = [] ∧ y.book.Settled := by
  rw [keeps_windowClose, keeps_onRenderer]
  have made : (making (· ≠ .apiInstance)).Keeps (Vulkan.discard w.renderer w.stack) ()
      fun _ _ => True := by
    rw [Vulkan.discard, keeps_bind]
    exact (making_closeRenderer w.renderer w.stack).mono fun out _ _ =>
      (keeps_bind ..).mpr (making_close out.2)
  have discarded := keeps_inHousehold_of_making h.open (custody_discard h.attended) made
  rw [Vulkan.discard, keeps_bind] at discarded
  apply discarded.mono
  rintro ⟨_, stack⟩ y closed
  rw [keeps_bind] at closed
  apply closed.mono
  rintro _ _ ⟨book, rfl, settled⟩
  rw [keeps_dropWindow, h.named]
  refine ⟨⟨h.live, settled⟩, ?_⟩
  rintro _ rfl
  exact ⟨by simp [h.live], settled⟩

/-- A window is opened where there is nothing; without its renderer, nothing is left. -/
theorem houses_create (empty : x.live = []) (settled : x.book.Settled) (look : WindowSettings)
    (graphics : GraphicsSettings) :
    household.KeepsTask (OpenWindow.create look graphics) x
      (fun w y => Houses w.id y.opened w y) fun _ y => y.live = [] ∧ y.book.Settled := by
  rw [keepsTask_openWindow]
  refine ⟨⟨empty, settled⟩, ?_, ?_⟩
  · rintro id _ ⟨-, rfl⟩
    rw [empty]
    rw [keeps_windowSize]
    refine ⟨rfl, ?_⟩
    rintro extent _ rfl
    rw [keeps_nativeHandles]
    refine ⟨rfl, ?_⟩
    rintro handles _ rfl
    have kept := custody_createStack settled.holds handles { graphics with extent }
    have first := instanceFirst_createStack handles { graphics with extent }
    have created := keepsTask_inHousehold (x := { x with live := [id], opened := id :: x.opened })
      (List.cons_ne_nil _ _) kept first fun _ => settled.gone
    refine created.mono ?_ ?_
    · rintro stack _ ⟨book, rfl, standing, stands⟩
      exact ⟨rfl, rfl, rfl, Renderer.tidy_new _, standing, stands⟩
    · rintro e _ ⟨book, rfl, holds⟩
      rw [keeps_dropWindow]
      refine ⟨⟨rfl, holds.settled⟩, ?_⟩
      rintro _ rfl
      exact ⟨List.erase_cons_head .., holds.settled⟩
  · rintro cause _ rfl
    exact ⟨empty, settled⟩

end Window

end Contract

end PaintPresenter
