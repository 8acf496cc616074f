/-!
# Pixel formats

A format is a code. Formats come in runs of consecutive codes whose names differ in one part, which
is how they are listed here: a run has a first code and the parts that vary between a beginning and
an end that all of its names share.
-/

namespace PaintPresenter.Vulkan

/-- Layout of the bits of a pixel. -/
structure Format where
  code : Int
  deriving DecidableEq, Repr

namespace Format

/-- Four bytes, red first, with linear values: textures. -/
def rgba8Unorm : Format := ⟨37⟩

/-- Four bytes, blue first, with sRGB values: preferred for the screen. -/
def bgra8Srgb : Format := ⟨50⟩

/-- Formats with consecutive codes. -/
structure Run where
  first : Nat
  beginning : String := ""
  parts : List String
  ending : String := ""
  deriving Repr

namespace Run

/-- The name of the format with a code, if the run has it. -/
def name? (r : Run) (code : Int) : Option String :=
  if code < r.first then none
  else r.parts[(code - r.first).toNat]?.map fun part => r.beginning ++ part ++ r.ending

end Run

/-! ## The formats that have names -/

/-- How the bits of a channel of eight bits or so are read. -/
def small : List String := ["UNORM", "SNORM", "USCALED", "SSCALED", "UINT", "SINT"]

/-- How the bits of a channel of many bits are read. -/
def wide : List String := ["UINT", "SINT", "SFLOAT"]

/-- Formats whose pixels are stored one by one. -/
def plain : List Run := [
  { first := 0, parts := ["UNDEFINED", "R4G4_UNORM_PACK8"] },
  { first := 2, ending := "_UNORM_PACK16", parts := [
    "R4G4B4A4", "B4G4R4A4", "R5G6B5", "B5G6R5", "R5G5B5A1", "B5G5R5A1", "A1R5G5B5"] },
  { first := 9, beginning := "R8_", parts := small ++ ["SRGB"] },
  { first := 16, beginning := "R8G8_", parts := small ++ ["SRGB"] },
  { first := 23, beginning := "R8G8B8_", parts := small ++ ["SRGB"] },
  { first := 30, beginning := "B8G8R8_", parts := small ++ ["SRGB"] },
  { first := 37, beginning := "R8G8B8A8_", parts := small ++ ["SRGB"] },
  { first := 44, beginning := "B8G8R8A8_", parts := small ++ ["SRGB"] },
  { first := 51, beginning := "A8B8G8R8_", parts := small ++ ["SRGB"], ending := "_PACK32" },
  { first := 58, beginning := "A2R10G10B10_", parts := small, ending := "_PACK32" },
  { first := 64, beginning := "A2B10G10R10_", parts := small, ending := "_PACK32" },
  { first := 70, beginning := "R16_", parts := small ++ ["SFLOAT"] },
  { first := 77, beginning := "R16G16_", parts := small ++ ["SFLOAT"] },
  { first := 84, beginning := "R16G16B16_", parts := small ++ ["SFLOAT"] },
  { first := 91, beginning := "R16G16B16A16_", parts := small ++ ["SFLOAT"] },
  { first := 98, beginning := "R32_", parts := wide },
  { first := 101, beginning := "R32G32_", parts := wide },
  { first := 104, beginning := "R32G32B32_", parts := wide },
  { first := 107, beginning := "R32G32B32A32_", parts := wide },
  { first := 110, beginning := "R64_", parts := wide },
  { first := 113, beginning := "R64G64_", parts := wide },
  { first := 116, beginning := "R64G64B64_", parts := wide },
  { first := 119, beginning := "R64G64B64A64_", parts := wide },
  { first := 122, parts := ["B10G11R11_UFLOAT_PACK32", "E5B9G9R9_UFLOAT_PACK32"] },
  { first := 1000340000, parts := ["A4R4G4B4", "A4B4G4R4"], ending := "_UNORM_PACK16" },
  { first := 1000464000, parts := ["R16G16_S10_5_NV"] },
  { first := 1000470000, parts := ["A1B5G5R5_UNORM_PACK16_KHR", "A8_UNORM_KHR"] }]

/-- Formats of depths and stencils. -/
def depth : List Run := [
  { first := 124, parts := [
    "D16_UNORM", "X8_D24_UNORM_PACK32", "D32_SFLOAT", "S8_UINT", "D16_UNORM_S8_UINT",
    "D24_UNORM_S8_UINT", "D32_SFLOAT_S8_UINT"] }]

/-- Sizes of the blocks that one family of compressed formats comes in. -/
def blockSizes : List String := [
  "4X4", "5X4", "5X5", "6X5", "6X6", "8X5", "8X6", "8X8", "10X5", "10X6", "10X8", "10X10",
  "12X10", "12X12"]

/-- Formats whose pixels are compressed in blocks. -/
def compressed : List Run := [
  { first := 131, beginning := "BC", ending := "_BLOCK", parts := [
    "1_RGB_UNORM", "1_RGB_SRGB", "1_RGBA_UNORM", "1_RGBA_SRGB", "2_UNORM", "2_SRGB", "3_UNORM",
    "3_SRGB", "4_UNORM", "4_SNORM", "5_UNORM", "5_SNORM", "6H_UFLOAT", "6H_SFLOAT", "7_UNORM",
    "7_SRGB"] },
  { first := 147, beginning := "ETC2_", ending := "_BLOCK", parts := [
    "R8G8B8_UNORM", "R8G8B8_SRGB", "R8G8B8A1_UNORM", "R8G8B8A1_SRGB", "R8G8B8A8_UNORM",
    "R8G8B8A8_SRGB"] },
  { first := 153, beginning := "EAC_", ending := "_BLOCK", parts := [
    "R11_UNORM", "R11_SNORM", "R11G11_UNORM", "R11G11_SNORM"] },
  { first := 157, beginning := "ASTC_", ending := "_BLOCK",
    parts := blockSizes.flatMap fun size => [size ++ "_UNORM", size ++ "_SRGB"] },
  { first := 1000054000, beginning := "PVRTC", ending := "_BLOCK_IMG", parts := [
    "1_2BPP_UNORM", "1_4BPP_UNORM", "2_2BPP_UNORM", "2_4BPP_UNORM", "1_2BPP_SRGB",
    "1_4BPP_SRGB", "2_2BPP_SRGB", "2_4BPP_SRGB"] },
  { first := 1000066000, beginning := "ASTC_", ending := "_SFLOAT_BLOCK", parts := blockSizes }]

/-- Formats in which pixels share samples of color, or planes hold the channels. -/
def shared : List Run := [
  { first := 1000156000, parts := [
    "G8B8G8R8_422_UNORM", "B8G8R8G8_422_UNORM", "G8_B8_R8_3PLANE_420_UNORM",
    "G8_B8R8_2PLANE_420_UNORM", "G8_B8_R8_3PLANE_422_UNORM", "G8_B8R8_2PLANE_422_UNORM",
    "G8_B8_R8_3PLANE_444_UNORM"] },
  { first := 1000156007, parts := [
    "R10X6_UNORM_PACK16", "R10X6G10X6_UNORM_2PACK16", "R10X6G10X6B10X6A10X6_UNORM_4PACK16",
    "G10X6B10X6G10X6R10X6_422_UNORM_4PACK16", "B10X6G10X6R10X6G10X6_422_UNORM_4PACK16",
    "G10X6_B10X6_R10X6_3PLANE_420_UNORM_3PACK16", "G10X6_B10X6R10X6_2PLANE_420_UNORM_3PACK16",
    "G10X6_B10X6_R10X6_3PLANE_422_UNORM_3PACK16", "G10X6_B10X6R10X6_2PLANE_422_UNORM_3PACK16",
    "G10X6_B10X6_R10X6_3PLANE_444_UNORM_3PACK16"] },
  { first := 1000156017, parts := [
    "R12X4_UNORM_PACK16", "R12X4G12X4_UNORM_2PACK16", "R12X4G12X4B12X4A12X4_UNORM_4PACK16",
    "G12X4B12X4G12X4R12X4_422_UNORM_4PACK16", "B12X4G12X4R12X4G12X4_422_UNORM_4PACK16",
    "G12X4_B12X4_R12X4_3PLANE_420_UNORM_3PACK16", "G12X4_B12X4R12X4_2PLANE_420_UNORM_3PACK16",
    "G12X4_B12X4_R12X4_3PLANE_422_UNORM_3PACK16", "G12X4_B12X4R12X4_2PLANE_422_UNORM_3PACK16",
    "G12X4_B12X4_R12X4_3PLANE_444_UNORM_3PACK16"] },
  { first := 1000156027, parts := [
    "G16B16G16R16_422_UNORM", "B16G16R16G16_422_UNORM", "G16_B16_R16_3PLANE_420_UNORM",
    "G16_B16R16_2PLANE_420_UNORM", "G16_B16_R16_3PLANE_422_UNORM", "G16_B16R16_2PLANE_422_UNORM",
    "G16_B16_R16_3PLANE_444_UNORM"] },
  { first := 1000330000, parts := [
    "G8_B8R8_2PLANE_444_UNORM", "G10X6_B10X6R10X6_2PLANE_444_UNORM_3PACK16",
    "G12X4_B12X4R12X4_2PLANE_444_UNORM_3PACK16", "G16_B16R16_2PLANE_444_UNORM"] }]

/-- The name of a format; one without a name is written as its number. -/
def name (f : Format) : String :=
  ((plain ++ depth ++ compressed ++ shared).findSome? (·.name? f.code)).getD (toString f.code)

end Format

end PaintPresenter.Vulkan
