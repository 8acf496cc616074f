/-!
# Result codes

Every driver function that can fail answers with a number: zero for success, a positive number
for success with a remark, a negative one for an error. New codes appear with every extension, so
a code is any number, and only the ones with a text of their own are listed.
-/

namespace PaintPresenter

/-- A driver's result code. -/
structure ResultCode where
  code : Int
  deriving DecidableEq, Repr

namespace ResultCode

/-- The call did what it was asked for. -/
def success : ResultCode := ⟨0⟩

/-- Nothing is there yet, and the call was not to wait for it. -/
def notReady : ResultCode := ⟨1⟩

/-- The wait was given up after its time. -/
def timeout : ResultCode := ⟨2⟩

/-- The swapchain still presents but no longer fits its surface. -/
def suboptimal : ResultCode := ⟨1000001003⟩

/-- An object could not be set up. -/
def initializationFailed : ResultCode := ⟨-3⟩

/-- An extension that was asked for is not there. -/
def extensionNotPresent : ResultCode := ⟨-7⟩

/-- A format that was asked for is not supported. -/
def formatNotSupported : ResultCode := ⟨-11⟩

/-- The surface is gone. -/
def surfaceLost : ResultCode := ⟨-1000000000⟩

/-- The swapchain no longer fits its surface and cannot present. -/
def outOfDate : ResultCode := ⟨-1000001004⟩

/-- Sentences for the core codes and identifiers for those of extensions. -/
def table : List (Int × String) := [
  (0, "Command completed successfully"),
  (1, "A fence or query has not yet completed"),
  (2, "A wait operation has not completed in the specified time"),
  (3, "An event is signaled"),
  (4, "An event is unsignaled"),
  (5, "A return array was too small for the result"),
  (-1, "A host memory allocation has failed"),
  (-2, "A device memory allocation has failed"),
  (-3, "Initialization of an object has failed"),
  (-4, "The logical device has been lost. See <https://registry.khronos.org/vulkan/specs/" ++
    "1.3-extensions/html/vkspec.html#devsandqueues-lost-device>"),
  (-5, "Mapping of a memory object has failed"),
  (-6, "Layer specified does not exist"),
  (-7, "Extension specified does not exist"),
  (-8, "Requested feature is not available on this device"),
  (-9, "Unable to find a Vulkan driver"),
  (-10, "Too many objects of the type have already been created"),
  (-11, "Requested format is not supported on this device"),
  (-12, "A requested pool allocation has failed due to fragmentation of the pool's memory"),
  (-13, "An unknown error has occurred, due to an implementation or application bug"),
  (1000001003, "SUBOPTIMAL_KHR"),
  (1000268000, "THREAD_IDLE_KHR"),
  (1000268001, "THREAD_DONE_KHR"),
  (1000268002, "OPERATION_DEFERRED_KHR"),
  (1000268003, "OPERATION_NOT_DEFERRED_KHR"),
  (1000297000, "PIPELINE_COMPILE_REQUIRED"),
  (1000482000, "INCOMPATIBLE_SHADER_BINARY_EXT"),
  (-1000000000, "ERROR_SURFACE_LOST_KHR"),
  (-1000000001, "ERROR_NATIVE_WINDOW_IN_USE_KHR"),
  (-1000001004, "ERROR_OUT_OF_DATE_KHR"),
  (-1000003001, "ERROR_INCOMPATIBLE_DISPLAY_KHR"),
  (-1000011001, "ERROR_VALIDATION_FAILED_EXT"),
  (-1000012000, "ERROR_INVALID_SHADER_NV"),
  (-1000023000, "ERROR_IMAGE_USAGE_NOT_SUPPORTED_KHR"),
  (-1000023001, "ERROR_VIDEO_PICTURE_LAYOUT_NOT_SUPPORTED_KHR"),
  (-1000023002, "ERROR_VIDEO_PROFILE_OPERATION_NOT_SUPPORTED_KHR"),
  (-1000023003, "ERROR_VIDEO_PROFILE_FORMAT_NOT_SUPPORTED_KHR"),
  (-1000023004, "ERROR_VIDEO_PROFILE_CODEC_NOT_SUPPORTED_KHR"),
  (-1000023005, "ERROR_VIDEO_STD_VERSION_NOT_SUPPORTED_KHR"),
  (-1000069000, "ERROR_OUT_OF_POOL_MEMORY"),
  (-1000072003, "ERROR_INVALID_EXTERNAL_HANDLE"),
  (-1000158000, "ERROR_INVALID_DRM_FORMAT_MODIFIER_PLANE_LAYOUT_EXT"),
  (-1000161000, "ERROR_FRAGMENTATION"),
  (-1000174001, "ERROR_NOT_PERMITTED_KHR"),
  (-1000255000, "ERROR_FULL_SCREEN_EXCLUSIVE_MODE_LOST_EXT"),
  (-1000257000, "ERROR_INVALID_OPAQUE_CAPTURE_ADDRESS"),
  (-1000299000, "ERROR_INVALID_VIDEO_STD_PARAMETERS_KHR"),
  (-1000338000, "ERROR_COMPRESSION_EXHAUSTED_EXT")]

/-- The text of a code; a code without one is written as its number. -/
def text (r : ResultCode) : String :=
  (table.lookup r.code).getD (toString r.code)

end ResultCode

end PaintPresenter
