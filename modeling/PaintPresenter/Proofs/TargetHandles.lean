import PaintPresenter.Proofs.Furnishing
import PaintPresenter.Proofs.Owners

/-!
# The handles of render targets

Any number of sets of render targets on any device that hands out the names of new objects and may
refuse to make one. A set is empty, or it has a view of every image, a render pass, and a
framebuffer on every view. What cannot be finished is taken down again in the order in which
finished sets are.
-/

namespace PaintPresenter.Vulkan

open Contract

/-! ## The device -/

namespace Stock

/-- What a call of a set of targets and its reply do. -/
def TargetEffect (s : Stock) : (c : TargetCall) → c.Reply → Stock → Prop
  | .newView image format, reply, t => s.Creates (.view { image, format }) reply t
  | .newRenderPass format, reply, t => s.Creates (.renderPass { format }) reply t
  | .newFramebuffer renderPass view extent, reply, t =>
    s.Creates (.framebuffer { renderPass, view, extent }) reply t
  | .dropView view, (), t => t = s.drop view.object
  | .dropRenderPass renderPass, (), t => t = s.drop renderPass.object
  | .dropFramebuffer framebuffer, (), t => t = s.drop framebuffer.object

/-- Only what exists is released. -/
def TargetProper (s : Stock) : TargetCall → Prop
  | .newView _ _ | .newRenderPass _ | .newFramebuffer _ _ _ => True
  | .dropView view => s.MayDrop view.object
  | .dropRenderPass renderPass => s.MayDrop renderPass.object
  | .dropFramebuffer framebuffer => s.MayDrop framebuffer.object

end Stock

/-- The device as a keeper of its stock. It may refuse any request. -/
def targetDevice : Contract TargetObjects Stock where
  step := Stock.TargetEffect
  permits := Stock.TargetProper

/-! ## What a set lists -/

/-- The entry of a view. -/
def viewItem (format : Format) (image : Handle .image) (view : Handle .view) : Item :=
  ⟨view.object, .view { image, format }, []⟩

/-- The entry of a framebuffer. -/
def framebufferItem (renderPass : Handle .renderPass) (extent : Extent) (view : Handle .view)
    (framebuffer : Handle .framebuffer) : Item :=
  ⟨framebuffer.object, .framebuffer { renderPass, view, extent }, []⟩

namespace TargetSet

/-- What a set of targets on some images holds, in the order in which it is released. -/
def items (set : TargetSet) (images : List (Handle .image)) (format : Format) (extent : Extent) :
    List Item :=
  (set.views.zip set.framebuffers).map (fun p => framebufferItem set.renderPass extent p.1 p.2) ++
    (held set.renderPass (.renderPass { format }) ++
      (images.zip set.views).map fun p => viewItem format p.1 p.2)

/-- The objects of a set in the order in which they are made. -/
def making (set : TargetSet) : List Object :=
  set.views.map Handle.object ++ (named set.renderPass ++ set.framebuffers.map Handle.object)

/-- The objects of a set in the order in which they are released. -/
def releasing (set : TargetSet) : List Object :=
  set.framebuffers.map Handle.object ++ (named set.renderPass ++ set.views.map Handle.object)

/-- A set of targets that may not be finished. -/
structure Begun (set : TargetSet) (images : List (Handle .image)) : Prop where
  views : set.views.length ≤ images.length
  framebuffers : set.framebuffers.length ≤ set.views.length

variable {set : TargetSet} {images : List (Handle .image)} {format : Format} {extent : Extent}

/-- A set that covers its images was begun for them. -/
theorem Covers.begun (covers : set.Covers images.length) : set.Begun images where
  views := Nat.le_of_eq covers.views
  framebuffers := Nat.le_of_eq (covers.framebuffers.trans covers.views.symm)

private theorem map_second {α : Type} {kind : ObjectKind} {l : List α}
    {handles : List (Handle kind)} (short : handles.length ≤ l.length)
    {item : α → Handle kind → Item} (own : ∀ a handle, (item a handle).object = handle.object) :
    ((l.zip handles).map fun p => item p.1 p.2).map Item.object = handles.map Handle.object := by
  have last : ((l.zip handles).map Prod.snd).map Handle.object = handles.map Handle.object := by
    rw [List.map_snd_zip short]
  rw [← last, List.map_map, List.map_map]
  exact List.map_congr_left fun p _ => own p.1 p.2

private theorem Begun.map_views (begun : set.Begun images) (format : Format) :
    ((images.zip set.views).map fun p => viewItem format p.1 p.2).map Item.object =
      set.views.map Handle.object := map_second begun.views fun _ _ => rfl

private theorem Begun.map_framebuffers (begun : set.Begun images) (renderPass : Handle .renderPass)
    (extent : Extent) :
    ((set.views.zip set.framebuffers).map fun p =>
        framebufferItem renderPass extent p.1 p.2).map Item.object =
      set.framebuffers.map Handle.object := map_second begun.framebuffers fun _ _ => rfl

/-- The items of a set are the objects that it releases, in that order. -/
theorem Begun.map_items (begun : set.Begun images) (format : Format) (extent : Extent) :
    (set.items images format extent).map Item.object = set.releasing := by
  rw [items, List.map_append, List.map_append, map_object_held, begun.map_framebuffers,
    begun.map_views]
  rfl

/-- A set of targets that is being filled, and the stock since the filling began. -/
structure Fills (set : TargetSet) (images : List (Handle .image)) (format : Format)
    (extent : Extent) (base : List Item) (s : Stock) (failures : Nat) (t : Stock) : Prop where
  begun : set.Begun images
  lists : t.Lists (set.items images format extent ++ base)
  follows : t.Follows s set.making [] failures

/-- One more target is listed, as the last that was made. -/
structure Grows (after set : TargetSet) (images : List (Handle .image)) (format : Format)
    (extent : Extent) (item : Item) : Prop where
  begun : after.Begun images
  listed : ∃ front back, set.items images format extent = front ++ back ∧
    after.items images format extent = front ++ item :: back
  made : after.making = set.making ++ [item.object]

private theorem zip_next {α β : Type} {done later : List α} {a : α} {l : List β}
    (paired : done.length = l.length) (b : β) :
    (done ++ a :: later).zip (l ++ [b]) = (done ++ a :: later).zip l ++ [(a, b)] := by
  have without : (done ++ a :: later).zip (l ++ []) = done.zip l ++ (a :: later).zip [] :=
    List.zip_append paired
  rw [List.append_nil, List.zip_nil_right, List.append_nil] at without
  rw [without, List.zip_append paired]
  simp

private theorem grows_view (pass : set.renderPass = .null) (none : set.framebuffers = [])
    {done later : List (Handle .image)} {image : Handle .image}
    (count : done.length = set.views.length) (format : Format) (extent : Extent)
    (view : Handle .view) :
    ({ set with views := set.views ++ [view] } : TargetSet).Grows set (done ++ image :: later)
      format extent (viewItem format image view) where
  begun := ⟨by simp [← count], by simp [none]⟩
  listed := by
    refine ⟨set.items (done ++ image :: later) format extent, [], (List.append_nil _).symm, ?_⟩
    simp [items, pass, none, zip_next count]
  made := by simp [making, pass, none, viewItem]

private theorem Begun.grows_renderPass (begun : set.Begun images) (pass : set.renderPass = .null)
    (none : set.framebuffers = []) (format : Format) (extent : Extent)
    {renderPass : Handle .renderPass} (real : renderPass ≠ .null) :
    ({ set with renderPass } : TargetSet).Grows set images format extent
      ⟨renderPass.object, .renderPass { format }, []⟩ where
  begun := ⟨begun.views, begun.framebuffers⟩
  listed := by
    refine ⟨[], set.items images format extent, rfl, ?_⟩
    simp [items, pass, none, held_of_ne real]
  made := by simp [making, pass, none, named_of_ne real]

private theorem Begun.grows_framebuffer (begun : set.Begun images)
    {done later : List (Handle .view)} {view : Handle .view}
    (all : done ++ view :: later = set.views) (paired : done.length = set.framebuffers.length)
    (format : Format) (extent : Extent) (framebuffer : Handle .framebuffer) :
    ({ set with framebuffers := set.framebuffers ++ [framebuffer] } : TargetSet).Grows set images
      format extent (framebufferItem set.renderPass extent view framebuffer) where
  begun := by
    have room : set.framebuffers.length + 1 ≤ set.views.length := by
      rw [← all, List.length_append, paired, List.length_cons]
      omega
    exact ⟨begun.views, by simpa using room⟩
  listed := by
    have added : set.views.zip (set.framebuffers ++ [framebuffer]) =
        set.views.zip set.framebuffers ++ [(view, framebuffer)] := by
      rw [← all]
      exact zip_next paired framebuffer
    refine ⟨_, _, rfl, ?_⟩
    rw [items, added, List.map_append, List.append_assoc]
    rfl
  made := by simp [making, framebufferItem]

section Fills

variable {base : List Item} {s t u : Stock} {ε : Type} {n : Nat} {request : Creation}

private theorem fills_start (h : s.Lists base) : Fills {} images format extent base s 0 s where
  begun := ⟨Nat.zero_le _, Nat.le_refl _⟩
  lists := by simpa [items] using h
  follows := .refl s

/-- A set goes on being filled with what was made. -/
theorem Fills.grow {after : TargetSet} {handle : Handle request.kind}
    (fills : set.Fills images format extent base s n t)
    (creates : t.Creates request (Except.ok handle : Except ε _) u)
    (grows : after.Grows set images format extent ⟨handle.object, request, []⟩) :
    after.Fills images format extent base s n u := by
  obtain ⟨-, h, follows⟩ := fills.lists.created fills.follows creates
  obtain ⟨front, back, before, behind⟩ := grows.listed
  refine ⟨grows.begun, ?_, grows.made ▸ follows⟩
  rw [before, List.append_assoc] at h
  rw [behind, List.append_assoc]
  exact h.sink

/-- A set stays as it is when a request is refused. -/
theorem Fills.refuse {e : ε} (fills : set.Fills images format extent base s n t)
    (creates : t.Creates request (.error e) u) :
    set.Fills images format extent base s (n + 1) u :=
  have refused := fills.lists.created fills.follows creates
  ⟨fills.begun, refused.1, refused.2⟩

end Fills

end TargetSet

variable {set : TargetSet} {images : List (Handle .image)} {format : Format} {extent : Extent}
  {s t : Stock} {l base : List Item}

/-! ## Making targets -/

-- There is a view of every image but those that are left, and nothing else.
private structure Viewed (set : TargetSet) (images later : List (Handle .image)) : Prop where
  renderPass : set.renderPass = .null
  framebuffers : set.framebuffers = []
  paired : ∃ done, done ++ later = images ∧ done.length = set.views.length

private theorem stock_addView {image : Handle .image} {later : List (Handle .image)}
    (viewed : Viewed set images (image :: later))
    (fills : set.Fills images format extent base s 0 t) :
    targetDevice.KeepsOp (TargetSet.addView format image) set t
      (fun _ made u => Viewed made images later ∧ made.Fills images format extent base s 0 u)
      fun _ made u => made.Fills images format extent base s 1 u := by
  obtain ⟨pass, none, done, rfl, count⟩ := viewed
  unfold TargetSet.addView
  rw [keepsOp_bind, keepsOp_ofTask]
  refine ⟨trivial, fun reply u step => ?_⟩
  have creates : t.Creates (.view { image, format }) reply u := step
  cases reply with
  | ok view =>
    refine ⟨⟨pass, none, done ++ [image], by simp, by simp [count]⟩, ?_⟩
    exact fills.grow creates (TargetSet.grows_view pass none count format extent view)
  | error e => exact fills.refuse creates

private theorem stock_addViews (h : s.Lists base) :
    targetDevice.KeepsOp (images.forM (TargetSet.addView format)) {} s
      (fun _ set t => Viewed set images [] ∧ set.Fills images format extent base s 0 t)
      fun _ set t => set.Fills images format extent base s 1 t := by
  apply keepsOp_forM fun later set t =>
    Viewed set images later ∧ set.Fills images format extent base s 0 t
  · exact fun image later set t left => stock_addView left.1 left.2
  · exact ⟨⟨rfl, rfl, [], rfl, rfl⟩, TargetSet.fills_start h⟩

private theorem Viewed.length_views (viewed : Viewed set images []) :
    set.views.length = images.length := by
  obtain ⟨done, all, count⟩ := viewed.paired
  rw [← count, ← all, List.append_nil]

-- There is a framebuffer on every view but those that are left, and the rest is as it was.
private structure Framed (made set : TargetSet) (later : List (Handle .view)) : Prop where
  renderPass : made.renderPass = set.renderPass
  views : made.views = set.views
  paired : ∃ done, done ++ later = set.views ∧ done.length = made.framebuffers.length

private theorem stock_addFramebuffer {made : TargetSet} {view : Handle .view}
    {later : List (Handle .view)} (framed : Framed made set (view :: later))
    (fills : made.Fills images format extent base s 0 t) :
    targetDevice.KeepsOp (TargetSet.addFramebuffer extent view) made t
      (fun _ after u => Framed after set later ∧ after.Fills images format extent base s 0 u)
      fun _ after u => after.Fills images format extent base s 1 u := by
  obtain ⟨same, views, done, all, paired⟩ := framed
  unfold TargetSet.addFramebuffer
  rw [keepsOp_bind, keepsOp_get, keepsOp_bind, keepsOp_ofTask]
  refine ⟨trivial, fun reply u step => ?_⟩
  have creates : t.Creates (.framebuffer { renderPass := made.renderPass, view, extent }) reply u :=
    step
  cases reply with
  | ok framebuffer =>
    refine ⟨⟨same, views, done ++ [view], by simp [all], by simp [paired]⟩, ?_⟩
    have grows := fills.begun.grows_framebuffer (all.trans views.symm) paired format extent
      framebuffer
    exact fills.grow creates grows
  | error e => exact fills.refuse creates

private theorem stock_addFramebuffers (fills : set.Fills images format extent base s 0 t)
    (none : set.framebuffers = []) :
    targetDevice.KeepsOp (set.views.forM (TargetSet.addFramebuffer extent)) set t
      (fun _ made u => Framed made set [] ∧ made.Fills images format extent base s 0 u)
      fun _ made u => made.Fills images format extent base s 1 u := by
  apply keepsOp_forM fun later made u =>
    Framed made set later ∧ made.Fills images format extent base s 0 u
  · exact fun view later made u left => stock_addFramebuffer left.1 left.2
  · exact ⟨⟨rfl, rfl, [], rfl, by simp [none]⟩, fills⟩

private theorem Framed.length_framebuffers {made : TargetSet} (framed : Framed made set []) :
    made.framebuffers.length = set.views.length := by
  obtain ⟨done, all, paired⟩ := framed.paired
  rw [← paired, ← all, List.append_nil]

private theorem stock_fillTargets (h : s.Lists base) :
    targetDevice.KeepsOp (TargetSet.fill images format extent) {} s
      (fun _ set t => set.Covers images.length ∧ set.Fills images format extent base s 0 t)
      fun _ set t => set.Fills images format extent base s 1 t := by
  unfold TargetSet.fill
  rw [keepsOp_bind]
  refine (stock_addViews h).mono ?_ fun _ _ _ => id
  rintro _ set t ⟨viewed, fills⟩
  rw [keepsOp_bind, keepsOp_ofTask]
  refine ⟨trivial, fun reply u step => ?_⟩
  have creates : t.Creates (.renderPass { format }) reply u := step
  cases reply with
  | ok renderPass =>
    have real : renderPass ≠ .null := creates.1
    have grows := fills.begun.grows_renderPass viewed.renderPass viewed.framebuffers format extent
      real
    refine (stock_addFramebuffers (fills.grow creates grows) viewed.framebuffers).mono ?_
      fun _ _ _ => id
    rintro _ made v ⟨framed, fills⟩
    have count := framed.length_framebuffers.trans viewed.length_views
    exact ⟨⟨framed.renderPass ▸ real, framed.views ▸ viewed.length_views, count⟩, fills⟩
  | error e => exact fills.refuse creates

/-! ## Releasing targets -/

private theorem stock_dropAll {kind : ObjectKind} (drop : Handle kind → Program TargetObjects Unit)
    (each : ∀ handle : Handle kind, ∀ {s : Stock}, s.MayDrop handle.object →
      targetDevice.Keeps (drop handle) s fun _ t => t = s.drop handle.object)
    {handles : List (Handle kind)} {own : List Item}
    (same : own.map Item.object = handles.map Handle.object) (h : s.Lists (own ++ base)) :
    targetDevice.Keeps (handles.forM drop) s fun _ t =>
      t.Lists base ∧ t.Follows s [] (handles.map Handle.object) 0 := by
  induction handles generalizing s own with
  | nil =>
    obtain rfl : own = [] := List.map_eq_nil_iff.mp same
    exact ⟨h, .refl s⟩
  | cons handle later ih =>
    obtain ⟨item, rest, rfl, first, others⟩ := List.map_eq_cons_iff.mp same
    have may := h.mayDrop List.mem_cons_self
    rw [first] at may
    refine (keeps_bind ..).mpr ((each handle may).mono ?_)
    rintro _ _ rfl
    apply (ih others (first ▸ h.drop)).mono
    rintro _ t ⟨h, follows⟩
    exact ⟨h, follows.trans ((Stock.Follows.refl s).drop handle.object)⟩

private theorem stock_dropRenderPass {renderPass : Handle .renderPass} {request : Creation}
    (h : s.Lists (held renderPass request ++ base)) :
    targetDevice.Keeps (TargetSet.dropRenderPass renderPass) s fun _ t =>
      t.Lists base ∧ t.Follows s [] (named renderPass) 0 := by
  unfold TargetSet.dropRenderPass
  by_cases null : renderPass = .null
  · subst null
    exact ⟨h, .refl s⟩
  · rw [held_of_ne null] at h
    rw [if_neg (by simpa using null)]
    refine ⟨h.mayDrop List.mem_cons_self, ?_⟩
    rintro ⟨⟩ t rfl
    rw [named_of_ne null]
    exact ⟨h.drop, (Stock.Follows.refl s).drop _⟩

/-- A set of targets is taken down from the framebuffers to the views. -/
theorem stock_destroyTargets (begun : set.Begun images)
    (h : s.Lists (set.items images format extent ++ base)) :
    targetDevice.Keeps (TargetSet.destroy set) s fun out t =>
      out.2 = {} ∧ t.Lists base ∧ t.Follows s [] set.releasing 0 := by
  rw [TargetSet.items, List.append_assoc, List.append_assoc] at h
  unfold TargetSet.destroy
  simp only [keeps_bind]
  have dropFramebuffers := stock_dropAll TargetSet.dropFramebuffer
    (fun handle s may => ⟨may, fun _ t same => same⟩)
    (begun.map_framebuffers set.renderPass extent) h
  apply dropFramebuffers.mono
  rintro _ t ⟨h, first⟩
  apply (stock_dropRenderPass h).mono
  rintro _ u ⟨h, second⟩
  have dropViews := stock_dropAll TargetSet.dropView
    (fun handle s may => ⟨may, fun _ t same => same⟩) (begun.map_views format) h
  apply dropViews.mono
  rintro _ v ⟨h, third⟩
  exact ⟨rfl, h, by simpa [TargetSet.releasing] using third.trans (second.trans first)⟩

/-- Targets are made for all images, or what was made is released again. -/
theorem stock_build (h : s.Lists base) :
    targetDevice.KeepsTask (TargetSet.build images format extent) s
      (fun set t => set.Covers images.length ∧ set.Fills images format extent base s 0 t)
      fun _ t => t.Lists base ∧ ∃ set : TargetSet, t.Follows s set.making set.releasing 1 := by
  unfold TargetSet.build
  refine (keeps_bind ..).mpr (keeps_run.mpr ?_)
  refine (stock_fillTargets h).mono (fun _ _ _ => id) fun e set t fills => ?_
  refine (keeps_bind ..).mpr ((stock_destroyTargets fills.begun fills.lists).mono ?_)
  rintro _ u ⟨-, h, follows⟩
  exact ⟨h, set, by simpa using follows.trans fills.follows⟩

/-! ## Any number of sets -/

namespace TargetSet

/-- Every view is of its image, every framebuffer is on its view and for the one render pass, and
all of them exist. -/
structure Wired (set : TargetSet) (images : List (Handle .image)) (format : Format)
    (extent : Extent) (s : Stock) : Prop where
  renderPass : s.Has set.renderPass (.renderPass { format }) []
  views : List.Forall₂ (fun image view => s.Has view (.view { image, format }) []) images set.views
  framebuffers : List.Forall₂ (fun view framebuffer =>
    s.Has framebuffer (.framebuffer { renderPass := set.renderPass, view, extent }) [])
    set.views set.framebuffers

/-- A set that covers its images, and whose items are listed, is wired to them. -/
theorem wired_of_lists (covers : set.Covers images.length)
    (h : s.Lists (set.items images format extent ++ base)) : set.Wired images format extent s := by
  have listed {item : Item} (mem : item ∈ set.items images format extent) :
      item ∈ set.items images format extent ++ base := List.mem_append_left base mem
  constructor
  case renderPass =>
    refine h.has (listed (List.mem_append_right _ (List.mem_append_left _ ?_)))
    rw [held_of_ne covers.renderPass]
    exact List.mem_singleton_self _
  case views =>
    refine List.forall₂_iff_zip.mpr ⟨covers.views.symm, fun {image view} mem => ?_⟩
    refine h.has (listed (List.mem_append_right _ (List.mem_append_right _ ?_)))
    exact List.mem_map_of_mem (f := fun p => viewItem format p.1 p.2) mem
  case framebuffers =>
    refine List.forall₂_iff_zip.mpr ⟨covers.views.trans covers.framebuffers.symm, ?_⟩
    intro view framebuffer mem
    refine h.has (listed (List.mem_append_left _ ?_))
    exact List.mem_map_of_mem (f := fun p => framebufferItem set.renderPass extent p.1 p.2) mem

/-- A set of targets owns nothing, or what is listed for its images. -/
def Owns (set : TargetSet) (own : List Item) : Prop :=
  (set = {} ∧ own = []) ∨ ∃ images format extent, set.Covers images.length ∧
    own = set.items images format extent

private theorem Owns.begun {own : List Item} (owns : set.Owns own) :
    ∃ images format extent, set.Begun images ∧ own = set.items images format extent := by
  obtain ⟨rfl, rfl⟩ | ⟨images, format, extent, covers, rfl⟩ := owns
  · exact ⟨[], .bgra8Srgb, ⟨0, 0⟩, ⟨Nat.le_refl _, Nat.le_refl _⟩, rfl⟩
  · exact ⟨images, format, extent, covers.begun, rfl⟩

private theorem Owns.map_object {own : List Item} (owns : set.Owns own) :
    own.map Item.object = set.releasing := by
  obtain ⟨images, format, extent, begun, rfl⟩ := owns.begun
  exact begun.map_items format extent

/-- How the making of targets ends: with targets for all images, or, when a call failed, with
nothing, and then what was made was released from the framebuffers to the views. -/
def Built (images : List (Handle .image)) (format : Format) (extent : Extent) (s : Stock) :
    Except GraphicsError TargetSet → Stock → Prop
  | .ok set, t => set.Wired images format extent t ∧ t.Follows s set.making [] 0
  | .error _, t => t.live.Perm s.live ∧
    ∃ set : TargetSet, t.Follows s set.making set.releasing 1

end TargetSet

/-- Sets of render targets on a device. -/
def targetOwners :
    Ownership TargetObjects TargetSet (List (Handle .image) × Format × Extent) Unit where
  found request := TargetSet.build request.1 request.2.1 request.2.2
  act _ := .ofAction TargetSet.destroy

private theorem target_accounts : targetOwners.Accounts targetDevice id TargetSet.Owns where
  found h := by
    refine (stock_build h).mono (fun set t done => ?_) fun _ _ => And.left
    exact ⟨_, .inr ⟨_, _, _, done.1, rfl⟩, done.2.lists⟩
  act {deed set s own base} owns h := by
    obtain ⟨images, format, extent, begun, rfl⟩ := owns.begun
    refine (keepsOp_ofAction _).mpr ((stock_destroyTargets begun h).mono ?_)
    rintro ⟨_, _⟩ t ⟨rfl, h, -⟩
    exact ⟨[], .inl ⟨rfl, rfl⟩, h⟩

/-- What is true of sets of targets and their device between any two operations, and what the next
operation comes to. -/
structure SoundTargets (sets : List TargetSet) (s : Stock) : Prop where
  whole : ∀ set ∈ sets, set = {} ∨ ∃ images format extent, set.Wired images format extent s
  settled : (∀ set ∈ sets, set = {}) → s.made.Perm s.released
  live : s.live.Perm (sets.flatMap TargetSet.releasing)
  distinct : s.live.Nodup
  account : s.made.Perm (s.released ++ s.live)
  building : ∀ images format extent c t, (TargetSet.build images format extent).run.Makes
    targetDevice.toWorld s c t → t.TargetProper c
  built : ∀ images format extent result t, (TargetSet.build images format extent).run.Ends
    targetDevice.toWorld s result t → TargetSet.Built images format extent s result t
  destroying : ∀ set ∈ sets, ∀ c t, (TargetSet.destroy set).Makes targetDevice.toWorld s c t →
    t.TargetProper c
  destroyed : ∀ set ∈ sets, ∀ out t, (TargetSet.destroy set).Ends targetDevice.toWorld s out t →
    out.2 = {} ∧ t.Follows s [] set.releasing 0

/-- Sets of targets are sound after any history. -/
theorem soundTargets_of_reaches {sets : List TargetSet}
    (reached : targetOwners.Reaches targetDevice.toWorld (fun _ _ => False) {} sets s) :
    SoundTargets sets s := by
  have owned : Owned TargetSet.Owns sets s :=
    target_accounts.owned (fun _ _ never => never.elim) Stock.lists_empty reached
  have ⟨_, _, h⟩ := owned
  constructor
  case whole =>
    intro set mem
    obtain ⟨own, base, empty | ⟨images, format, extent, covers, rfl⟩, h⟩ := owned.of_mem mem
    · exact .inl empty.1
    · exact .inr ⟨images, format, extent, TargetSet.wired_of_lists covers h⟩
  case settled =>
    intro empty
    refine owned.settled TargetSet.Owns.map_object fun set mem => ?_
    rw [empty set mem]
    rfl
  case live => exact owned.live TargetSet.Owns.map_object
  case distinct => exact h.nodup
  case account => exact h.balance
  case building => exact fun images format extent c t makes => (stock_build h).permits makes
  case built =>
    rintro images format extent (e | set) t ends
    · obtain ⟨left, set, follows⟩ := (stock_build h).ends_error ends
      exact ⟨left.live.trans h.live.symm, set, follows⟩
    · obtain ⟨covers, fills⟩ := (stock_build h).ends_ok ends
      exact ⟨TargetSet.wired_of_lists covers fills.lists, fills.follows⟩
  case destroying =>
    intro set mem c t makes
    obtain ⟨own, base, owns, h⟩ := owned.of_mem mem
    obtain ⟨images, format, extent, begun, rfl⟩ := owns.begun
    exact (stock_destroyTargets begun h).permits makes
  case destroyed =>
    intro set mem out t ends
    obtain ⟨own, base, owns, h⟩ := owned.of_mem mem
    obtain ⟨images, format, extent, begun, rfl⟩ := owns.begun
    obtain ⟨empty, -, follows⟩ := (stock_destroyTargets begun h).ends ends
    exact ⟨empty, follows⟩

end PaintPresenter.Vulkan
