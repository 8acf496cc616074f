import PaintPresenter.Proofs.TargetHandles

/-!
# The handles of screens

Any number of screens on any driver, which may refuse every call. Between any two operations a
screen is bare, or it has a swapchain with the images that the swapchain reported and a finished set
of render targets on them.
-/

namespace PaintPresenter.Vulkan

open Contract

/-! ## The driver -/

namespace Stock

/-- What a call to the driver and its reply do. A surface that offers no format fails as well. -/
def DriverEffect (s : Stock) : (c : DriverCall) → c.Reply → Stock → Prop
  | .create request, reply, t => s.Creates request reply t
  | .release o, (), t => t = s.drop o
  | .freeCommands _ buffer, (), t => t = s.drop buffer.object
  | .swapchainImages swapchain, .ok images, t => t = s.report swapchain.object images
  | .surfaceFormats _ _, .ok formats, t =>
    t = if (chooseFormat? formats).isNone then s.fail else s
  | c, reply, t => t = if (c.failure? reply).isSome then s.fail else s

/-- Only what exists is released. -/
def DriverProper (s : Stock) : DriverCall → Prop
  | .release o => s.MayDrop o
  | .freeCommands _ buffer => s.MayDrop buffer.object
  | _ => True

end Stock

/-- The driver as a keeper of its stock. It may refuse any request. -/
def stockroom : Contract Driver Stock where
  step := Stock.DriverEffect
  permits := Stock.DriverProper

variable {α : Type} {s t : Stock} {own base : List Item} {screen : Screen} {rig : Rig}

private theorem stockroom_onDriver {c : TargetCall} (proper : s.TargetProper c) :
    stockroom.Keeps c.onDriver s fun reply t => s.TargetEffect c reply t := by
  cases c with
  | newView image format =>
    exact keepsTask_run.mpr <| (keepsTask_create _).mpr ⟨trivial, fun _ _ => id, fun _ _ => id⟩
  | newRenderPass format =>
    exact keepsTask_run.mpr <| (keepsTask_create _).mpr ⟨trivial, fun _ _ => id, fun _ _ => id⟩
  | newFramebuffer renderPass view extent =>
    exact keepsTask_run.mpr <| (keepsTask_create _).mpr ⟨trivial, fun _ _ => id, fun _ _ => id⟩
  | dropView view => exact ⟨proper, fun _ _ => id⟩
  | dropRenderPass renderPass => exact ⟨proper, fun _ _ => id⟩
  | dropFramebuffer framebuffer => exact ⟨proper, fun _ _ => id⟩

private theorem stockroom_embed {p : Program TargetObjects α} {post : α → Stock → Prop}
    (h : targetDevice.Keeps p s post) :
    (stockroom.behind TargetCall.onDriver).Keeps p s post := by
  have kept := h.transfer (D := stockroom.behind TargetCall.onDriver) Eq ?_ rfl
  · exact kept.mono fun _ _ ⟨_, same, promised⟩ => same ▸ promised
  · rintro s _ c rfl proper
    have answered := stockroom_onDriver proper
    exact ⟨answered.mono fun _ _ _ => trivial, fun reply t ends => ⟨t, answered.ends ends, rfl⟩⟩

/-! ## Screens -/

/-- What may be done with a screen. -/
inductive ScreenDeed
  | rebuild (rig : Rig) (extent : Extent)
  | destroy

/-- Screens on a driver. -/
def screenOwners : Ownership Driver Screen (Rig × Extent) ScreenDeed where
  found request := Screen.create request.1 request.2
  act
    | .rebuild rig extent => Screen.rebuild rig extent
    | .destroy => .ofAction Screen.destroy

namespace Screen

/-- Nothing is left of a screen but what it was asked for. -/
structure Bare (screen : Screen) : Prop where
  swapchain : screen.swapchain = .null
  images : screen.images = []
  targets : screen.targets = {}

/-- The request that a screen's swapchain was made from. -/
def request (screen : Screen) (surface : Handle .surface) (transform : UInt32) :
    SwapchainRequest where
  surface
  minImages := screen.minImages
  format := screen.format
  extent := screen.extent
  transform

/-- The swapchain exists with the images that it reported, and there are finished targets on all of
them in the screen's format and size. -/
structure Wired (screen : Screen) (s : Stock) : Prop where
  swapchain : ∃ surface transform,
    s.Has screen.swapchain (.swapchain (screen.request surface transform)) screen.images
  targets : screen.targets.Wired screen.images screen.format.format screen.extent s

/-- The objects of a screen in the order in which they are released. -/
def releasing (screen : Screen) : List Object :=
  screen.targets.releasing ++ named screen.swapchain

/-- A screen that may not be finished owns a part of the books. -/
def Shows (screen : Screen) (own : List Item) : Prop :=
  ∃ images format extent chain, screen.targets.Begun images ∧
    chain.map Item.object = named screen.swapchain ∧
      own = screen.targets.items images format extent ++ chain

/-- A finished screen owns its targets and its swapchain. -/
def Stands (screen : Screen) (own : List Item) : Prop :=
  ∃ surface transform, screen.swapchain ≠ .null ∧ screen.targets.Covers screen.images.length ∧
    own = screen.targets.items screen.images screen.format.format screen.extent ++
      [⟨screen.swapchain.object, .swapchain (screen.request surface transform), screen.images⟩]

/-- Between operations a screen owns nothing or is finished. -/
def Owns (screen : Screen) (own : List Item) : Prop := (screen.Bare ∧ own = []) ∨ screen.Stands own

/-- A screen is finished, and so many calls failed in all. -/
structure Finished (screen : Screen) (base : List Item) (failures : Nat) (s : Stock) : Prop where
  failures : s.failures = failures
  listed : ∃ own, screen.Stands own ∧ s.Lists (own ++ base)

/-- One more call failed, and what the screen holds then is known. -/
structure CutOff (screen : Screen) (base : List Item) (failures : Nat) (s : Stock) : Prop where
  failures : s.failures = failures + 1
  listed : ∃ own, screen.Shows own ∧ s.Lists (own ++ base)

private theorem shows_of_noTargets {chain : List Item} (none : screen.targets = {})
    (same : chain.map Item.object = named screen.swapchain) : screen.Shows chain := by
  refine ⟨[], .bgra8Srgb, screen.extent, chain, ?_, same, ?_⟩
  · rw [none]
    exact ⟨Nat.le_refl _, Nat.le_refl _⟩
  · rw [none]
    rfl

private theorem Bare.shows (bare : screen.Bare) : screen.Shows [] :=
  shows_of_noTargets bare.targets (by rw [bare.swapchain]; rfl)

private theorem Bare.of_same {after : Screen} (bare : screen.Bare)
    (same : after.SameObjects screen) : after.Bare where
  swapchain := same.1.trans bare.swapchain
  images := same.2.1.trans bare.images
  targets := same.2.2.trans bare.targets

private theorem Stands.shows (stands : screen.Stands own) : screen.Shows own := by
  obtain ⟨surface, transform, real, covers, rfl⟩ := stands
  let chain : Item :=
    ⟨screen.swapchain.object, .swapchain (screen.request surface transform), screen.images⟩
  exact ⟨_, _, _, [chain], covers.begun, (named_of_ne real).symm, rfl⟩

private theorem Stands.wired (stands : screen.Stands own) (h : s.Lists (own ++ base)) :
    screen.Wired s := by
  obtain ⟨surface, transform, real, covers, rfl⟩ := stands
  rw [List.append_assoc] at h
  refine ⟨⟨surface, transform, h.has (List.mem_append_right _ List.mem_cons_self)⟩, ?_⟩
  exact TargetSet.wired_of_lists covers h

private theorem Owns.shows (owns : screen.Owns own) : screen.Shows own := by
  obtain ⟨bare, rfl⟩ | stands := owns
  · exact bare.shows
  · exact stands.shows

private theorem Shows.map_object (shows : screen.Shows own) :
    own.map Item.object = screen.releasing := by
  obtain ⟨images, format, extent, chain, begun, same, rfl⟩ := shows
  rw [List.map_append, begun.map_items, same]
  rfl

end Screen

/-! ## Taking a screen down -/

private theorem stock_releaseUnlessNull {kind : ObjectKind} {handle : Handle kind}
    {chain : List Item} (same : chain.map Item.object = named handle)
    (h : s.Lists (chain ++ base)) :
    stockroom.Keeps (Rig.releaseUnlessNull handle) s fun _ t =>
      t.Lists base ∧ t.Follows s [] (named handle) 0 := by
  unfold Rig.releaseUnlessNull
  by_cases null : handle = .null
  · subst null
    obtain rfl : chain = [] := List.map_eq_nil_iff.mp same
    exact ⟨h, .refl s⟩
  · rw [named_of_ne null] at same ⊢
    obtain ⟨item, rfl, own⟩ := List.map_eq_singleton_iff.mp same
    rw [if_neg (by simpa using null), keeps_release, ← own]
    refine ⟨h.mayDrop List.mem_cons_self, ?_⟩
    rintro t rfl
    exact ⟨h.drop, (Stock.Follows.refl s).drop _⟩

private theorem stock_screenDestroy (shows : screen.Shows own) (h : s.Lists (own ++ base)) :
    stockroom.Keeps (Screen.destroy screen) s fun out t =>
      out.2.Bare ∧ t.Lists base ∧ t.Follows s [] screen.releasing 0 := by
  obtain ⟨images, format, extent, chain, begun, same, rfl⟩ := shows
  rw [List.append_assoc] at h
  rw [keeps_screenDestroy]
  apply (stockroom_embed (stock_destroyTargets begun h)).mono
  rintro ⟨_, _⟩ t ⟨rfl, h, first⟩
  apply (stock_releaseUnlessNull same h).mono
  rintro _ u ⟨h, second⟩
  exact ⟨⟨rfl, rfl, rfl⟩, h, second.trans first⟩

/-! ## Putting a screen up -/

private theorem stock_settle (requested : Extent) :
    stockroom.KeepsOp (Screen.settle rig requested) screen s
      (fun request after t => after.SameObjects screen ∧
        (∃ transform, request = after.request rig.surface transform) ∧ t = s)
      fun _ after t => after.SameObjects screen ∧ t = s.fail := by
  have same : screen.SameObjects screen := ⟨rfl, rfl, rfl⟩
  rw [keepsOp_settle, keepsTask_surfaceLimits]
  refine ⟨trivial, fun limits t step => ?_, fun _ t step => ⟨same, step⟩⟩
  obtain rfl : s = t := step.symm
  rw [keepsTask_surfaceFormats]
  refine ⟨trivial, fun formats t step => ?_, fun _ t step => ⟨same, step⟩⟩
  replace step : t = if (chooseFormat? formats).isNone then s.fail else s := step
  cases chosen : chooseFormat? formats with
  | none =>
    rw [chosen] at step
    exact ⟨same, step⟩
  | some format =>
    rw [chosen] at step
    exact fun extent _ minImages _ => ⟨⟨rfl, rfl, rfl⟩, ⟨limits.transform, rfl⟩, step⟩

private theorem stock_buildTargets (h : s.Lists base) (images : List (Handle .image))
    (format : Format) (extent : Extent) :
    stockroom.KeepsTask
      (ExceptT.mk ((TargetSet.build images format extent).run.embed TargetCall.onDriver)) s
      (fun set t => set.Covers images.length ∧ t.failures = s.failures ∧
        t.Lists (set.items images format extent ++ base))
      fun _ t => t.failures = s.failures + 1 ∧ t.Lists base := by
  refine keeps_embed.mpr ((stockroom_embed (stock_build h)).mono fun result t => ?_)
  cases result with
  | ok set => exact fun done => ⟨done.1, done.2.follows.failures, done.2.lists⟩
  | error e => exact fun ⟨h, _, follows⟩ => ⟨follows.failures, h⟩

private theorem stock_equip {swapchain : Handle .swapchain} {surface : Handle .surface}
    {transform : UInt32} (none : screen.targets = {}) (real : swapchain ≠ .null)
    (h : s.Lists (⟨swapchain.object, .swapchain (screen.request surface transform), []⟩ :: base)) :
    stockroom.KeepsTask (Driver.swapchainImages swapchain) s
      (fun images t => stockroom.KeepsTask
        (ExceptT.mk ((TargetSet.build images screen.format.format screen.extent).run.embed
          TargetCall.onDriver)) t
        (fun targets u => Screen.Finished { screen with swapchain, images, targets } base
          s.failures u)
        fun _ u => Screen.CutOff { screen with swapchain, images } base s.failures u)
      fun _ t => Screen.CutOff { screen with swapchain } base s.failures t := by
  have shown {made : Screen} {images : List (Handle .image)} (own : made.swapchain = swapchain)
      (none : made.targets = {}) : made.Shows
        [⟨swapchain.object, .swapchain (screen.request surface transform), images⟩] :=
    Screen.shows_of_noTargets none (own ▸ (named_of_ne real).symm)
  rw [keepsTask_swapchainImages]
  refine ⟨trivial, fun images t reported => ?_, fun _ t failed => ?_⟩
  · obtain rfl : t = s.report swapchain.object images := reported
    refine (stock_buildTargets (h.report images) images _ _).mono ?_ ?_
    · rintro targets u ⟨covers, failures, h⟩
      refine ⟨failures, _, ⟨surface, transform, real, covers, rfl⟩, ?_⟩
      rw [List.append_assoc]
      exact h
    · rintro _ u ⟨failures, h⟩
      exact ⟨failures, _, shown rfl none, h⟩
  · obtain rfl : t = s.fail := failed
    exact ⟨rfl, _, shown rfl none, h.fail⟩

private theorem stock_fillScreen (bare : screen.Bare) (h : s.Lists base) (requested : Extent) :
    stockroom.KeepsOp (Screen.fill rig requested) screen s
      (fun _ made t => made.Finished base s.failures t)
      fun _ made t => made.CutOff base s.failures t := by
  rw [keepsOp_screenFill]
  refine (stock_settle requested).mono ?_ ?_
  · rintro _ after s ⟨same, ⟨transform, rfl⟩, rfl⟩
    have left := bare.of_same same
    rw [keepsTask_create]
    refine ⟨trivial, fun swapchain t step => ?_, fun _ t failed => ?_⟩
    · have creates : s.Creates (.swapchain (after.request rig.surface transform))
          (Except.ok swapchain : Except ResultCode _) t := step
      obtain ⟨real, h, follows⟩ := h.created (.refl s) creates
      have count : t.failures = s.failures := follows.failures
      rw [← count]
      exact stock_equip left.targets real h
    · obtain rfl : t = s.fail := failed
      exact ⟨rfl, [], left.shows, h.fail⟩
  · rintro _ after _ ⟨same, rfl⟩
    exact ⟨rfl, [], (bare.of_same same).shows, h.fail⟩

private theorem stock_fillOrDestroyScreen (bare : screen.Bare) (h : s.Lists base)
    (requested : Extent) :
    stockroom.KeepsOp (Screen.fillOrDestroy rig requested) screen s
      (fun _ made t => made.Finished base s.failures t)
      fun _ made t => t.failures = s.failures + 1 ∧ made.Bare ∧ t.Lists base := by
  rw [keepsOp_screenFillOrDestroy]
  refine (stock_fillScreen bare h requested).mono (fun _ _ _ => id) ?_
  rintro _ made t ⟨failures, own, shows, h⟩
  apply (stock_screenDestroy shows h).mono
  rintro _ u ⟨bare, h, follows⟩
  exact ⟨follows.failures.trans failures, bare, h⟩

private theorem stock_createScreen (h : s.Lists base) (requested : Extent) :
    stockroom.KeepsTask (Screen.create rig requested) s
      (fun made t => made.Finished base s.failures t)
      fun _ t => t.failures = s.failures + 1 ∧ t.Lists base := by
  rw [keepsTask_screenCreate]
  refine (stock_fillOrDestroyScreen ⟨rfl, rfl, rfl⟩ h requested).mono (fun _ _ _ => id) ?_
  exact fun _ _ _ left => ⟨left.1, left.2.2⟩

private theorem stock_rebuildScreen (shows : screen.Shows own) (h : s.Lists (own ++ base))
    (requested : Extent) :
    stockroom.KeepsOp (Screen.rebuild rig requested) screen s
      (fun _ made t => made.Finished base s.failures t)
      fun _ made t => t.failures = s.failures + 1 ∧ made.Bare ∧ t.Lists base := by
  rw [keepsOp_screenRebuild]
  apply (stock_screenDestroy shows h).mono
  rintro out t ⟨bare, h, follows⟩
  have same : t.failures = s.failures := follows.failures
  rw [← same]
  exact stock_fillOrDestroyScreen bare h requested

/-! ## Drawing -/

/-- Whatever the driver does, a recording into an image is not refused for want of a framebuffer,
and its pass draws into the given one. -/
structure Stack.DrawsInto (stack : Stack) (image : UInt32) (framebuffer : Handle .framebuffer) :
    Prop where
  unrefused : ∀ {γ : Type} (W : Program.World Driver γ) clear x e after y,
    ((Stack.beginPass image clear).run stack).Ends W x (.error e, after) y →
      ∀ violation, e ≠ .frameOrder violation
  target : ∀ {γ : Type} (W : Program.World Driver γ) clear x buffer pass y,
    ((Stack.beginPass image clear).run stack).Makes W x (.record buffer (.beginPass pass)) y →
      pass.framebuffer = framebuffer

private def drawingInto {γ : Type} (W : Program.World Driver γ)
    (framebuffer : Handle .framebuffer) : Contract Driver γ where
  toWorld := W
  permits _ c := ∀ buffer pass, c = .record buffer (.beginPass pass) →
    pass.framebuffer = framebuffer

private theorem ofResult_ne_frameOrder (function : String) (result : ResultCode)
    (violation : String) : GraphicsError.ofResult function result ≠ .frameOrder violation := by
  unfold GraphicsError.ofResult
  split
  · exact nofun
  · split <;> exact nofun

private theorem drawingInto_beginPass {γ : Type} (W : Program.World Driver γ) {x : γ}
    {stack : Stack} {image : UInt32} {framebuffer : Handle .framebuffer}
    (found : stack.screen.targets.framebuffer? image.toNat = some framebuffer) (clear : Color) :
    (drawingInto W framebuffer).KeepsOp (Stack.beginPass image clear) stack x (fun _ _ _ => True)
      fun e _ _ => ∀ violation, e ≠ .frameOrder violation := by
  unfold Stack.beginPass
  rw [keepsOp_bind, keepsOp_get, found]
  simp only [keepsOp_bind, keepsOp_ofTask, keepsTask_perform, keepsOp_ofProgram, keeps_record,
    keepsOp_pure]
  refine ⟨?_, fun y _ => ⟨?_, fun z _ => ⟨?_, fun _ _ => trivial⟩, ?_⟩, ?_⟩
  · rintro _ _ ⟨⟩
  · rintro _ _ ⟨⟩
  · intro buffer pass same
    obtain ⟨-, rfl⟩ := by simpa using same
    rfl
  · exact fun _ _ _ => ofResult_ne_frameOrder _ _
  · exact fun _ _ _ => ofResult_ne_frameOrder _ _

private theorem drawsInto_of_framebuffer {stack : Stack} {image : UInt32}
    {framebuffer : Handle .framebuffer}
    (found : stack.screen.targets.framebuffer? image.toNat = some framebuffer) :
    stack.DrawsInto image framebuffer where
  unrefused W clear _ _ _ _ ends := (drawingInto_beginPass W found clear).ends_error ends
  target W clear _ buffer pass _ makes :=
    (drawingInto_beginPass W found clear).permits makes buffer pass rfl

/-! ## Any number of screens -/

private theorem screen_accounts : screenOwners.Accounts stockroom id Screen.Owns where
  found h := by
    refine (stock_createScreen h _).mono ?_ fun _ _ => And.right
    rintro _ _ ⟨-, own, stands, h⟩
    exact ⟨own, .inr stands, h⟩
  act {deed screen s own base} owns h := by
    cases deed with
    | rebuild rig extent =>
      refine (stock_rebuildScreen owns.shows h extent).mono ?_ ?_
      · rintro _ _ _ ⟨-, own, stands, h⟩
        exact ⟨own, .inr stands, h⟩
      · rintro _ _ _ ⟨-, bare, h⟩
        exact ⟨[], .inl ⟨bare, rfl⟩, h⟩
    | destroy =>
      refine (keepsOp_ofAction _).mpr ((stock_screenDestroy owns.shows h).mono ?_)
      rintro _ _ ⟨bare, h, -⟩
      exact ⟨[], .inl ⟨bare, rfl⟩, h⟩

/-- How the making of a screen ends: with a finished one, or, when a step failed, with nothing. -/
def Screen.Created (s : Stock) : Except GraphicsError Screen → Stock → Prop
  | .ok screen, t => screen.Wired t ∧ t.failures = s.failures
  | .error _, t => t.live.Perm s.live ∧ t.failures = s.failures + 1

/-- How a screen is put up again: finished, or, when a step failed, bare. -/
def Screen.Rebuilt (after : Screen) (s : Stock) : Except GraphicsError Unit → Stock → Prop
  | .ok (), t => after.Wired t ∧ t.failures = s.failures
  | .error _, t => after.Bare ∧ t.failures = s.failures + 1

/-- What is true of screens and their driver between any two operations, and what the next operation
comes to. -/
structure SoundScreens (screens : List Screen) (s : Stock) : Prop where
  whole : ∀ screen ∈ screens, screen.Bare ∨ screen.Wired s
  settled : (∀ screen ∈ screens, screen.Bare) → s.made.Perm s.released
  live : s.live.Perm (screens.flatMap Screen.releasing)
  distinct : s.live.Nodup
  account : s.made.Perm (s.released ++ s.live)
  creating : ∀ rig extent c t, (Screen.create rig extent).run.Makes stockroom.toWorld s c t →
    t.DriverProper c
  created : ∀ rig extent result t, (Screen.create rig extent).run.Ends
    stockroom.toWorld s result t → Screen.Created s result t
  acting : ∀ screen ∈ screens, ∀ deed c t, ((screenOwners.act deed).run screen).Makes
    stockroom.toWorld s c t → t.DriverProper c
  rebuilt : ∀ screen ∈ screens, ∀ rig extent result after t, ((Screen.rebuild rig extent).run
    screen).Ends stockroom.toWorld s (result, after) t → after.Rebuilt s result t
  destroyed : ∀ screen ∈ screens, ∀ out t, (Screen.destroy screen).Ends stockroom.toWorld s out t →
    out.2.Bare ∧ t.Follows s [] screen.releasing 0
  drawn : ∀ screen ∈ screens, screen.swapchain ≠ .null → ∀ image : UInt32,
    image.toNat < screen.images.length →
      ∃ framebuffer, framebuffer.object ∈ s.live ∧
        ∀ stack : Stack, stack.screen = screen → stack.DrawsInto image framebuffer

private theorem Screen.Wired.framebuffer (wired : screen.Wired s) {image : Nat}
    (inside : image < screen.images.length) :
    ∃ framebuffer, screen.targets.framebuffer? image = some framebuffer ∧
      framebuffer.object ∈ s.live := by
  obtain ⟨-, views, framebuffers⟩ := wired.targets
  have sameLength := views.length_eq.trans framebuffers.length_eq
  have room : image < screen.targets.framebuffers.length := sameLength ▸ inside
  have viewed : image < screen.targets.views.length := views.length_eq ▸ inside
  have made := framebuffers.get viewed room
  exact ⟨_, List.getElem?_eq_getElem room, List.mem_map_of_mem made.2⟩

private theorem soundScreens_of_reaches {screens : List Screen}
    (reached : screenOwners.Reaches stockroom.toWorld (fun _ _ => False) {} screens s) :
    SoundScreens screens s := by
  have owned : Owned Screen.Owns screens s :=
    screen_accounts.owned (fun _ _ never => never.elim) Stock.lists_empty reached
  have ⟨_, _, h⟩ := owned
  have map_object {screen : Screen} {own : List Item} (owns : screen.Owns own) :
      own.map Item.object = screen.releasing := owns.shows.map_object
  have whole : ∀ screen ∈ screens, screen.Bare ∨ screen.Wired s := by
    intro screen mem
    obtain ⟨own, base, bare | stands, h⟩ := owned.of_mem mem
    · exact .inl bare.1
    · exact .inr (stands.wired h)
  constructor
  case whole => exact whole
  case settled =>
    intro bare
    refine owned.settled map_object fun screen mem => ?_
    rw [Screen.releasing, (bare screen mem).targets, (bare screen mem).swapchain]
    rfl
  case live => exact owned.live map_object
  case distinct => exact h.nodup
  case account => exact h.balance
  case creating => exact fun rig extent c t makes => (stock_createScreen h extent).permits makes
  case created =>
    rintro rig extent (e | screen) t ends
    · obtain ⟨failures, left⟩ := (stock_createScreen h extent).ends_error ends
      exact ⟨left.live.trans h.live.symm, failures⟩
    · obtain ⟨failures, own, stands, h⟩ := (stock_createScreen h extent).ends_ok ends
      exact ⟨stands.wired h, failures⟩
  case acting => exact fun screen mem deed c t makes => screen_accounts.permits_act owned mem makes
  case rebuilt =>
    rintro screen mem rig extent (e | _) after t ends
    · obtain ⟨own, base, owns, h⟩ := owned.of_mem mem
      obtain ⟨failures, bare, -⟩ := (stock_rebuildScreen owns.shows h extent).ends_error ends
      exact ⟨bare, failures⟩
    · obtain ⟨own, base, owns, h⟩ := owned.of_mem mem
      obtain ⟨failures, own, stands, h⟩ := (stock_rebuildScreen owns.shows h extent).ends_ok ends
      exact ⟨stands.wired h, failures⟩
  case destroyed =>
    intro screen mem out t ends
    obtain ⟨own, base, owns, h⟩ := owned.of_mem mem
    obtain ⟨bare, -, follows⟩ := (stock_screenDestroy owns.shows h).ends ends
    exact ⟨bare, follows⟩
  case drawn =>
    intro screen mem real image inside
    obtain bare | wired := whole screen mem
    · exact absurd bare.swapchain real
    · obtain ⟨framebuffer, found, live⟩ := wired.framebuffer inside
      refine ⟨framebuffer, live, ?_⟩
      rintro stack rfl
      exact drawsInto_of_framebuffer found

/-- Whatever sets of render targets and screens go through, and whatever fails on the way: between
operations each is empty, or it is finished, with a framebuffer on every view and a view of every
image. What is empty has released everything, each object once; what fails to be made takes back
what was made, framebuffers first and views last, and leaves what was there before. So every image
of a live swapchain can be drawn into. -/
theorem surfaces_whole_or_empty :
    (∀ sets s, targetOwners.Reaches targetDevice.toWorld (fun _ _ => False) {} sets s →
      SoundTargets sets s) ∧
    ∀ screens s, screenOwners.Reaches stockroom.toWorld (fun _ _ => False) {} screens s →
      SoundScreens screens s :=
  ⟨fun _ _ => soundTargets_of_reaches, fun _ _ => soundScreens_of_reaches⟩

/-! ## A driver that refuses now and then -/

/-- Refuses some of the targets that it is asked for. -/
def Stock.rationTargets (refused : List Nat) :
    (c : TargetCall) → Stock → Except Fault c.Reply × Stock
  | .newView image format, s =>
    s.ration refused (GraphicsError.driver "vkCreateImageView" ⟨-1⟩) (.view { image, format })
  | .newRenderPass format, s =>
    s.ration refused (GraphicsError.driver "vkCreateRenderPass" ⟨-1⟩) (.renderPass { format })
  | .newFramebuffer renderPass view extent, s =>
    s.ration refused (GraphicsError.driver "vkCreateFramebuffer" ⟨-1⟩)
      (.framebuffer { renderPass, view, extent })
  | .dropView view, s => (.ok (), s.drop view.object)
  | .dropRenderPass renderPass, s => (.ok (), s.drop renderPass.object)
  | .dropFramebuffer framebuffer, s => (.ok (), s.drop framebuffer.object)

private theorem targetDevice_allows_ration (refused : List Nat) :
    targetDevice.Allows (Stock.rationTargets refused) := by
  intro c s reply answered
  cases c with
  | newView image format => exact Stock.creates_ration answered
  | newRenderPass format => exact Stock.creates_ration answered
  | newFramebuffer renderPass view extent => exact Stock.creates_ration answered
  | dropView view => exact rfl
  | dropRenderPass renderPass => exact rfl
  | dropFramebuffer framebuffer => exact rfl

/-- Refuses some of the objects that it is asked for, and reports two images of a swapchain. -/
def Stock.rationDriver (refused : List Nat) :
    (c : DriverCall) → Stock → Except Fault c.Reply × Stock
  | .create request, s => s.ration refused (⟨-1⟩ : ResultCode) request
  | .release o, s => (.ok (), s.drop o)
  | .freeCommands _ buffer, s => (.ok (), s.drop buffer.object)
  | .swapchainImages swapchain, s =>
    (.ok (.ok [⟨101⟩, ⟨102⟩]), s.report swapchain.object [⟨101⟩, ⟨102⟩])
  | c, s => (.ok (c.granted 0), s)

private theorem stockroom_allows_ration (refused : List Nat) :
    stockroom.Allows (Stock.rationDriver refused) := by
  intro c s reply answered
  cases c with
  | create request => exact Stock.creates_ration answered
  | _ =>
    obtain rfl := Except.ok.inj answered
    exact rfl

/-- Targets for two images whose fifth object, the second framebuffer, is refused. -/
def rationedTargets : Program.Run Stock (Except GraphicsError TargetSet) :=
  (TargetSet.build [⟨101⟩, ⟨102⟩] .bgra8Srgb ⟨640, 480⟩).run.run (Stock.rationTargets [5]) {}

/-- A rig on which a screen can be put up. -/
def rationedRig : Rig where
  apiInstance := ⟨1⟩
  messenger := none
  surface := ⟨1⟩
  physicalDevice := ⟨1⟩
  memory := .ofLists [7] 1 [⟨0, 1⟩] 1
  anisotropyLimit := none
  device := ⟨1⟩
  queueFamily := 0
  queue := ⟨1⟩
  commandPool := ⟨1⟩
  descriptorPool := ⟨1⟩

/-- A screen on two images whose objects have consecutive numbers. -/
def rationedScreen (first : Nat) : Screen where
  swapchain := ⟨first⟩
  images := [⟨101⟩, ⟨102⟩]
  targets := ⟨[⟨first + 1⟩, ⟨first + 2⟩], ⟨first + 3⟩, [⟨first + 4⟩, ⟨first + 5⟩]⟩
  extent := ⟨640, 480⟩
  minImages := 3

/-- A screen that is made where the ninth object is refused. -/
def rationedCreation : Program.Run Stock (Except GraphicsError Screen) :=
  (Screen.create rationedRig ⟨640, 480⟩).run.run (Stock.rationDriver [9]) {}

/-- It is put up again, and the second view is refused. -/
def rationedRefusal : Program.Run Stock (Except GraphicsError Unit × Screen) :=
  ((Screen.rebuild rationedRig ⟨640, 480⟩).run (rationedScreen 1)).run (Stock.rationDriver [9])
    rationedCreation.state

/-- What the refusal leaves. -/
def rationedRest : Screen where
  extent := ⟨640, 480⟩
  minImages := 3

/-- It is put up once more. -/
def rationedRepair : Program.Run Stock (Except GraphicsError Unit × Screen) :=
  ((Screen.rebuild rationedRig ⟨640, 480⟩).run rationedRest).run (Stock.rationDriver [9])
    rationedRefusal.state

/-- A refused framebuffer takes the pass and the views with it, and a screen that was refused one
is put up again whole. -/
theorem surfaces_whole_or_empty_after_refusal :
    (∃ t, TargetSet.Built [⟨101⟩, ⟨102⟩] .bgra8Srgb ⟨640, 480⟩ {}
        (.error (.driver "vkCreateFramebuffer" ⟨-1⟩)) t ∧
      t.made.length = 4 ∧
        t.released = [⟨.view, 2⟩, ⟨.view, 1⟩, ⟨.renderPass, 3⟩, ⟨.framebuffer, 4⟩]) ∧
    ∃ s t, SoundScreens [rationedRest] s ∧ s.made.length = 8 ∧ s.made.Perm s.released ∧
      SoundScreens [rationedScreen 10] t ∧ (rationedScreen 10).Wired t := by
  obtain ⟨targets, screens⟩ := surfaces_whole_or_empty
  constructor
  · have refused : (TargetSet.build [⟨101⟩, ⟨102⟩] .bgra8Srgb ⟨640, 480⟩).run.Ends
        targetDevice.toWorld {} (.error (.driver "vkCreateFramebuffer" ⟨-1⟩))
        rationedTargets.state := (targetDevice_allows_ration [5]).ends rfl
    exact ⟨_, (targets [] {} .start).built _ _ _ _ _ refused, rfl, rfl⟩
  have allows := stockroom_allows_ration [9]
  have created : (Screen.create rationedRig ⟨640, 480⟩).run.Ends stockroom.toWorld {}
      (.ok (rationedScreen 1)) rationedCreation.state := allows.ends rfl
  have refused : ((Screen.rebuild rationedRig ⟨640, 480⟩).run (rationedScreen 1)).Ends
      stockroom.toWorld rationedCreation.state
      (.error (.driver "vkCreateImageView" ⟨-1⟩), rationedRest) rationedRefusal.state :=
    allows.ends rfl
  have repaired : ((Screen.rebuild rationedRig ⟨640, 480⟩).run rationedRest).Ends
      stockroom.toWorld rationedRefusal.state (.ok (), rationedScreen 10) rationedRepair.state :=
    allows.ends rfl
  have first : screenOwners.Reaches stockroom.toWorld (fun _ _ => False) {}
      ([] ++ rationedScreen 1 :: []) rationedCreation.state :=
    .found (rationedRig, ⟨640, 480⟩) .start created
  have second : screenOwners.Reaches stockroom.toWorld (fun _ _ => False) {}
      ([] ++ rationedRest :: []) rationedRefusal.state :=
    .acted (.rebuild rationedRig ⟨640, 480⟩) first refused
  have third : screenOwners.Reaches stockroom.toWorld (fun _ _ => False) {}
      ([] ++ rationedScreen 10 :: []) rationedRepair.state :=
    .acted (.rebuild rationedRig ⟨640, 480⟩) second repaired
  have bare := screens _ _ second
  have rest : rationedRest.Bare := ⟨rfl, rfl, rfl⟩
  have settled := bare.settled fun screen mem => List.mem_singleton.mp mem ▸ rest
  have wired := bare.rebuilt _ List.mem_cons_self _ _ _ _ _ repaired
  exact ⟨_, _, bare, rfl, settled, screens _ _ third, wired.1⟩

end PaintPresenter.Vulkan
