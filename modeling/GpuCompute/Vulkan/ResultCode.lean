/-!
# Vulkan result codes

The codes with which Vulkan calls end, their names and the sentences that explain them. Codes
without a sentence are shown by name, codes without a name by number.
-/

namespace GpuCompute.Vulkan

/-- A result code (`VkResult`). -/
structure ResultCode where
  raw : Int
  deriving DecidableEq

namespace ResultCode

/-- The code's name without its `VK_` mark. -/
def name? (r : ResultCode) : Option String :=
  match r.raw with
  | 0 => some "SUCCESS"
  | 1 => some "NOT_READY"
  | 2 => some "TIMEOUT"
  | 3 => some "EVENT_SET"
  | 4 => some "EVENT_RESET"
  | 5 => some "INCOMPLETE"
  | -1 => some "ERROR_OUT_OF_HOST_MEMORY"
  | -2 => some "ERROR_OUT_OF_DEVICE_MEMORY"
  | -3 => some "ERROR_INITIALIZATION_FAILED"
  | -4 => some "ERROR_DEVICE_LOST"
  | -5 => some "ERROR_MEMORY_MAP_FAILED"
  | -6 => some "ERROR_LAYER_NOT_PRESENT"
  | -7 => some "ERROR_EXTENSION_NOT_PRESENT"
  | -8 => some "ERROR_FEATURE_NOT_PRESENT"
  | -9 => some "ERROR_INCOMPATIBLE_DRIVER"
  | -10 => some "ERROR_TOO_MANY_OBJECTS"
  | -11 => some "ERROR_FORMAT_NOT_SUPPORTED"
  | -12 => some "ERROR_FRAGMENTED_POOL"
  | -13 => some "ERROR_UNKNOWN"
  | -1000069000 => some "ERROR_OUT_OF_POOL_MEMORY"
  | -1000072003 => some "ERROR_INVALID_EXTERNAL_HANDLE"
  | -1000161000 => some "ERROR_FRAGMENTATION"
  | -1000257000 => some "ERROR_INVALID_OPAQUE_CAPTURE_ADDRESS"
  | -1000000000 => some "ERROR_SURFACE_LOST_KHR"
  | -1000000001 => some "ERROR_NATIVE_WINDOW_IN_USE_KHR"
  | 1000001003 => some "SUBOPTIMAL_KHR"
  | -1000001004 => some "ERROR_OUT_OF_DATE_KHR"
  | -1000003001 => some "ERROR_INCOMPATIBLE_DISPLAY_KHR"
  | -1000011001 => some "ERROR_VALIDATION_FAILED_EXT"
  | -1000012000 => some "ERROR_INVALID_SHADER_NV"
  | -1000023000 => some "ERROR_IMAGE_USAGE_NOT_SUPPORTED_KHR"
  | -1000023001 => some "ERROR_VIDEO_PICTURE_LAYOUT_NOT_SUPPORTED_KHR"
  | -1000023002 => some "ERROR_VIDEO_PROFILE_OPERATION_NOT_SUPPORTED_KHR"
  | -1000023003 => some "ERROR_VIDEO_PROFILE_FORMAT_NOT_SUPPORTED_KHR"
  | -1000023004 => some "ERROR_VIDEO_PROFILE_CODEC_NOT_SUPPORTED_KHR"
  | -1000023005 => some "ERROR_VIDEO_STD_VERSION_NOT_SUPPORTED_KHR"
  | -1000158000 => some "ERROR_INVALID_DRM_FORMAT_MODIFIER_PLANE_LAYOUT_EXT"
  | -1000174001 => some "ERROR_NOT_PERMITTED_KHR"
  | -1000255000 => some "ERROR_FULL_SCREEN_EXCLUSIVE_MODE_LOST_EXT"
  | 1000268000 => some "THREAD_IDLE_KHR"
  | 1000268001 => some "THREAD_DONE_KHR"
  | 1000268002 => some "OPERATION_DEFERRED_KHR"
  | 1000268003 => some "OPERATION_NOT_DEFERRED_KHR"
  | 1000297000 => some "PIPELINE_COMPILE_REQUIRED"
  | -1000299000 => some "ERROR_INVALID_VIDEO_STD_PARAMETERS_KHR"
  | 1000482000 => some "ERROR_INCOMPATIBLE_SHADER_BINARY_EXT"
  | -1000338000 => some "ERROR_COMPRESSION_EXHAUSTED_EXT"
  | _ => none

/-- A section of a document on the web: its host and its path by their parts, and its anchor. -/
structure Section where
  host : List String
  path : List String
  anchor : String

/-- The address of a section. -/
def Section.address (s : Section) : String :=
  let place := "/".intercalate ("" :: "" :: ".".intercalate s.host :: s.path)
  "https:" ++ place ++ "#" ++ s.anchor

/-- The section of the specification about devices that are lost. -/
def lostDevice : Section where
  host := ["registry", "khronos", "org"]
  path := ["vulkan", "specs", "1.3-extensions", "html", "vkspec.html"]
  anchor := "devsandqueues-lost-device"

/-- The sentence that explains a code, for the codes of the core set. -/
def sentence? (r : ResultCode) : Option String :=
  match r.raw with
  | 0 => some "Command completed successfully"
  | 1 => some "A fence or query has not yet completed"
  | 2 => some "A wait operation has not completed in the specified time"
  | 3 => some "An event is signaled"
  | 4 => some "An event is unsignaled"
  | 5 => some "A return array was too small for the result"
  | -1 => some "A host memory allocation has failed"
  | -2 => some "A device memory allocation has failed"
  | -3 => some "Initialization of an object has failed"
  | -4 => some ("The logical device has been lost. See <" ++ lostDevice.address ++ ">")
  | -5 => some "Mapping of a memory object has failed"
  | -6 => some "Layer specified does not exist"
  | -7 => some "Extension specified does not exist"
  | -8 => some "Requested feature is not available on this device"
  | -9 => some "Unable to find a Vulkan driver"
  | -10 => some "Too many objects of the type have already been created"
  | -11 => some "Requested format is not supported on this device"
  | -12 => some "A requested pool allocation has failed due to fragmentation of the pool's memory"
  | -13 => some "An unknown error has occurred, due to an implementation or application bug"
  | _ => none

/-- The code's name, or its number if it has none. -/
def label (r : ResultCode) : String := r.name?.getD (toString r.raw)

/-- The sentence that explains the code, else its name, else its number. -/
def text (r : ResultCode) : String := r.sentence?.getD r.label

end ResultCode

end GpuCompute.Vulkan
