import PaintPresenter.Proofs.Custody

/-!
# Custody of the rig

A rig that cannot be put up leaves nothing. One that stands lists its objects in the order in which
it is taken down: pools, device, messenger, surface and instance.
-/

namespace PaintPresenter.Vulkan

open Contract

variable {s t : Holdings} {l : List Entry}

/-- What stands while a rig is put up. -/
def Rig.Scaffold.entries (scaffold : Rig.Scaffold) : List Entry :=
  unlessNull scaffold.commandPool [] ++ (ifAny scaffold.device ++ (ifAny scaffold.messenger ++
    (unlessNull scaffold.surface [] ++ [⟨scaffold.apiInstance.object, []⟩])))

/-- What a rig holds. -/
def Rig.entries (rig : Rig) : List Entry :=
  ⟨rig.descriptorPool.object, []⟩ :: ⟨rig.commandPool.object, []⟩ :: ⟨rig.device.object, []⟩ ::
    (ifAny rig.messenger ++ [⟨rig.surface.object, []⟩, ⟨rig.apiInstance.object, []⟩])

/-- A rig has an instance and a device. -/
theorem rig_equipped (rig : Rig) : Equipped rig.entries where
  apiInstance := ⟨rig.apiInstance.object, by simp [Rig.entries], rfl⟩
  device := ⟨rig.device.object, by simp [Rig.entries], rfl⟩

/-- The surface is among the objects of a rig. -/
theorem rig_lists_surface (rig : Rig) : rig.surface.object ∈ objects rig.entries := by
  simp [Rig.entries]

/-- So is the command pool. -/
theorem rig_lists_pool (rig : Rig) : rig.commandPool.object ∈ objects rig.entries := by
  simp [Rig.entries]

/-! ## Taking down -/

private theorem custody_takeDown {scaffold : Rig.Scaffold} (h : Holds s scaffold.entries)
    (pooled : scaffold.device = none → scaffold.commandPool = .null) :
    custody.Keeps scaffold.takeDown s fun _ t => Holds t [] := by
  have pool : custody.Keeps (if scaffold.device.isSome then
      Rig.releaseUnlessNull scaffold.commandPool else .done ()) s fun _ t =>
        Holds t (ifAny scaffold.device ++ (ifAny scaffold.messenger ++
          (unlessNull scaffold.surface [] ++ [⟨scaffold.apiInstance.object, []⟩]))) := by
    rw [Rig.Scaffold.entries] at h
    cases device : scaffold.device with
    | none =>
      rw [pooled device, device] at h
      exact h
    | some handle =>
      rw [device] at h
      exact h.releaseUnlessNull (by simp)
  rw [keeps_takeDown]
  apply pool.mono
  intro _ t h
  apply (h.releaseIfAny (by simp)).mono
  intro _ t h
  apply (h.releaseIfAny (by simp)).mono
  intro _ t h
  apply (h.releaseUnlessNull (by simp)).mono
  intro _ t h
  exact h.release (by simp)

/-- A rig that is destroyed leaves nothing. -/
theorem custody_rigDestroy {rig : Rig} (h : Holds s rig.entries) :
    custody.Keeps rig.destroy s fun _ t => Holds t [] := by
  unfold Rig.destroy
  simp only [keeps_bind, keeps_log]
  apply (Holds.release h (by simp)).mono
  intro _ t h
  apply (h.release (by simp)).mono
  intro _ t h
  apply (h.release (by simp)).mono
  intro _ t h
  apply (h.releaseIfAny (by simp)).mono
  intro _ t h
  apply (h.release (by simp)).mono
  intro _ t h
  exact (h.release (by simp)).mono fun _ t h => h

/-! ## Putting up -/

-- What is made without a device: it needs nothing, or the instance at most.
private theorem Holds.createEarly (h : Holds s l) {request : Creation}
    (early : request.kind.OfDevice = false) (alone : s.needs request = [])
    (founded : request.kind ≠ .apiInstance → ∃ o ∈ objects l, o.kind = .apiInstance)
    (first : ∀ e ∈ l, request.kind.Supports e.object.kind = false) :
    custody.KeepsTask (Driver.create request) s
      (fun made t => made ≠ .null ∧ Holds t (⟨made.object, []⟩ :: l)) fun _ t => Holds t l := by
  have created := h.create alone (by simp) (fun kind supports => ?_) first
  · apply created.mono (fun made t ⟨real, _, h⟩ => ⟨real, h⟩)
    rintro _ t rfl
    exact h
  · cases kind with
    | apiInstance => exact founded (by simpa [ObjectKind.Supports] using supports)
    | device => simp [ObjectKind.Supports, early] at supports
    | _ => exact absurd supports Bool.false_ne_true

private theorem custody_createInstance (h : Holds s []) (display : NativeDisplay) (appName : String)
    (validation : Bool) :
    custody.KeepsTask (Rig.createInstance display appName validation) s
      (fun apiInstance t => Holds t [⟨apiInstance.object, []⟩]) fun _ t => Holds t [] := by
  unfold Rig.createInstance
  rw [keepsTask_bind, keepsTask_checked, keeps_done]
  cases display.extensions with
  | error result => exact h
  | ok extensions =>
    simp only [keepsTask_bind, keepsTask_driverLog, keepsTask_pure]
    exact (h.createEarly rfl rfl (absurd rfl) (by simp)).mono (fun _ _ h => h.2) fun _ _ h => h

-- A messenger that is refused is done without.
private theorem custody_attach {apiInstance : Handle .apiInstance}
    (h : Holds s [⟨apiInstance.object, []⟩]) :
    custody.Keeps Diagnostics.attach s
      fun messenger t => Holds t (ifAny messenger ++ [⟨apiInstance.object, []⟩]) := by
  unfold Diagnostics.attach
  rw [keeps_bind, keepsTask_run]
  have founded : ∃ o ∈ objects [(⟨apiInstance.object, []⟩ : Entry)], o.kind = .apiInstance :=
    ⟨apiInstance.object, by simp, rfl⟩
  exact (h.createEarly rfl rfl (fun _ => founded) (by simp [ObjectKind.Supports])).mono
    (fun _ _ h => h.2) fun _ _ h => h

private theorem custody_createSurface {apiInstance : Handle .apiInstance}
    {messenger : Option (Handle .messenger)}
    (h : Holds s (ifAny messenger ++ [⟨apiInstance.object, []⟩])) (display : NativeDisplay)
    (window : NativeWindow) :
    custody.KeepsTask (Rig.createSurface display window) s
      (fun surface t => surface ≠ .null ∧
        Holds t (ifAny messenger ++ [⟨surface.object, []⟩, ⟨apiInstance.object, []⟩]))
      fun _ t => Holds t (ifAny messenger ++ [⟨apiInstance.object, []⟩]) := by
  unfold Rig.createSurface
  rw [keepsTask_bind, keepsTask_checked, keeps_done]
  cases display.platformWith window with
  | error result => exact h
  | ok platform =>
    have founded : ∃ o ∈ objects (ifAny messenger ++ [⟨apiInstance.object, []⟩]),
        o.kind = .apiInstance := ⟨apiInstance.object, by simp, rfl⟩
    refine (h.createEarly rfl rfl (fun _ => founded) (by simp [ObjectKind.Supports])).mono
      (fun surface t ⟨real, h⟩ => ⟨real, ?_⟩) fun _ _ h => h
    apply Holds.swap (a := [⟨surface.object, []⟩]) h
    · simp [WithinParts]
    · cases messenger with
      | none => simp [Upper, ifAny]
      | some messenger => simp [Upper, ifAny, Handle.object]

-- What stands without a device is not of a device.
private theorem custody_createDevice {apiInstance : Handle .apiInstance}
    {messenger : Option (Handle .messenger)} {surface : Handle .surface}
    (h : Holds s (ifAny messenger ++ [⟨surface.object, []⟩, ⟨apiInstance.object, []⟩]))
    (physicalDevice : Handle .physicalDevice) (queueFamily : Nat) (anisotropy : Bool) :
    custody.KeepsTask (Rig.createDevice physicalDevice queueFamily anisotropy) s
      (fun device t => Holds t (⟨device.object, []⟩ ::
        (ifAny messenger ++ [⟨surface.object, []⟩, ⟨apiInstance.object, []⟩])))
      fun _ t => Holds t (ifAny messenger ++ [⟨surface.object, []⟩, ⟨apiInstance.object, []⟩]) := by
  unfold Rig.createDevice
  simp only [keepsTask_bind, keepsTask_driverLog, keepsTask_pure]
  have founded : ∃ o ∈ objects (ifAny messenger ++ [⟨surface.object, []⟩,
      ⟨apiInstance.object, []⟩]), o.kind = .apiInstance := ⟨apiInstance.object, by simp, rfl⟩
  refine (h.createEarly rfl rfl (fun _ => founded) ?_).mono (fun _ _ h => h.2) fun _ _ h => h
  cases messenger with
  | none => simp [ifAny, Handle.object, ObjectKind.Supports, ObjectKind.OfDevice]
  | some messenger => simp [ifAny, Handle.object, ObjectKind.Supports, ObjectKind.OfDevice]

private theorem custody_putUp {apiInstance : Handle .apiInstance}
    {messenger : Option (Handle .messenger)}
    (h : Holds s (ifAny messenger ++ [⟨apiInstance.object, []⟩])) (display : NativeDisplay)
    (window : NativeWindow) (settings : GraphicsSettings) :
    custody.KeepsOp (Rig.putUp display window settings) { apiInstance, messenger } s
      (fun rig _ t => Holds t rig.entries)
      fun _ scaffold t => Holds t scaffold.entries ∧
        (scaffold.device = none → scaffold.commandPool = .null) := by
  unfold Rig.putUp
  simp only [keepsOp_bind, keepsOp_ofTask, keepsOp_modify, keepsOp_ofProgram, keepsOp_log,
    keepsOp_get, keepsOp_pure]
  refine (custody_createSurface h display window).mono (fun surface t made => ?_)
    fun _ t h => ⟨h, by simp⟩
  obtain ⟨real, h⟩ := made
  have standing {t : Holdings}
      (h : Holds t (ifAny messenger ++ [⟨surface.object, []⟩, ⟨apiInstance.object, []⟩])) :
      Holds t ({ apiInstance, messenger, surface } : Rig.Scaffold).entries := by
    simpa [Rig.Scaffold.entries, ifAny, unlessNull_of_ne real] using h
  refine ((custody_answers _).selectDevice _ _ h).mono (fun offer t h => ?_)
    fun _ t h => ⟨standing h, by simp⟩
  apply ((custody_answers _).ask (c := .properties _) trivial h).mono
  intro properties t h
  apply ((custody_answers _).ask (c := .anisotropy _) trivial h).mono
  intro anisotropy t h
  apply ((custody_answers _).ask (c := .memory _) trivial h).mono
  intro memory t h
  refine (custody_createDevice h ..).mono (fun device t h => ?_)
    fun _ t h => ⟨standing h, by simp⟩
  have equipped : Equipped (⟨device.object, []⟩ ::
      (ifAny messenger ++ [⟨surface.object, []⟩, ⟨apiInstance.object, []⟩])) :=
    ⟨⟨apiInstance.object, by simp, rfl⟩, ⟨device.object, by simp, rfl⟩⟩
  apply ((custody_answers _).ask (c := .queue _) trivial h).mono
  intro queue t h
  refine (h.createAlone equipped rfl (by simp)).mono (fun commandPool t made => ?_)
    fun _ t h => ⟨?_, by simp⟩
  · obtain ⟨real_pool, h⟩ := made
    refine (h.createAlone (equipped.cons _) rfl (by simp)).mono (fun _ t made => made.2)
      fun _ t h => ⟨?_, by simp⟩
    simpa [Rig.Scaffold.entries, ifAny, unlessNull_of_ne real, unlessNull_of_ne real_pool] using h
  · simpa [Rig.Scaffold.entries, ifAny, unlessNull_of_ne real] using h

/-- A rig that cannot be put up leaves nothing. -/
theorem custody_createRig (h : Holds s []) (display : NativeDisplay) (window : NativeWindow)
    (settings : GraphicsSettings) :
    custody.KeepsTask (Rig.create display window settings) s (fun rig t => Holds t rig.entries)
      fun _ t => Holds t [] := by
  rw [keepsTask_rigCreate]
  refine ⟨trivial, ?_⟩
  rintro loaded t rfl
  by_cases loaded : loaded = true
  · rw [if_pos loaded]
    apply ((custody_answers _).wanted settings h).mono
    intro validation t h
    refine (custody_createInstance h ..).mono (fun apiInstance t h => ?_) fun _ _ h => h
    have attached : custody.Keeps (if validation then Diagnostics.attach else .done none) t
        fun messenger t => Holds t (ifAny messenger ++ [⟨apiInstance.object, []⟩]) := by
      cases validation with
      | false => exact h
      | true => exact custody_attach h
    apply attached.mono
    intro messenger t h
    apply (custody_putUp h display window settings).mono (fun _ _ _ h => h)
    rintro _ scaffold t ⟨h, pooled⟩
    exact custody_takeDown h pooled
  · rw [if_neg loaded]
    exact h

end PaintPresenter.Vulkan
