import PaintPresenter.Vulkan.Call

/-!
# Calls to a driver in writing

A call is written as the name of its function and its arguments, each as `name=value`, with
numbers for all enumerations and flags. Loading the library and storing into mapped memory are no
calls of the driver and have no written form.
-/

namespace PaintPresenter.Vulkan

private def bracketed (items : List String) : String :=
  let inner := ",".intercalate items
  s!"[{inner}]"

private def handleList {kind : ObjectKind} (handles : List (Handle kind)) : String :=
  bracketed (handles.map fun h => toString h.number)

private def bit (b : Bool) : String := if b then "1" else "0"

/-- A range of levels and layers. -/
def ImageRange.text (r : ImageRange) : String :=
  s!"{r.aspect}/{r.firstLevel}+{r.levels}/{r.firstLayer}+{r.layers}"

/-- What a pass waits for. -/
def PassDependency.text (d : PassDependency) : String :=
  s!"{d.source}->{d.target} stages {d.sourceStages}->{d.targetStages} " ++
    s!"access {d.sourceAccess}->{d.targetAccess} flags {d.flags}"

namespace Creation

private def instanceText (r : InstanceRequest) : String :=
  let extensions := bracketed r.extensions
  let layers := bracketed r.layers
  s!"app={r.appName} app_version={r.appVersion} engine={r.engineName} " ++
    s!"engine_version={r.engineVersion} api={r.apiVersion} extensions={extensions} layers={layers}"

private def deviceText (r : DeviceRequest) : String :=
  let priorities := bracketed [Binary32.bitsText 1.0]
  let extensions := bracketed r.extensions
  let anisotropy := bit r.anisotropy
  s!"pd={r.device.number} queues=[{r.queueFamily}:{priorities}] extensions={extensions} " ++
    s!"anisotropy={anisotropy}"

private def swapchainText (r : SwapchainRequest) : String :=
  let extent := r.extent.text
  let clipped := bit r.clipped
  s!"surface={r.surface.number} min_images={r.minImages} format={r.format.format.code} " ++
    s!"color_space={r.format.colorSpace} extent={extent} layers={r.layers} usage={r.usage} " ++
    s!"sharing={r.sharing} transform={r.transform} alpha={r.alpha} mode={r.mode} " ++
    s!"clipped={clipped} old={r.old.number}"

private def imageText (r : ImageRequest) : String :=
  let extent := r.extent.text
  s!"type=1 format={r.format.code} extent={extent}x1 mips={r.levels} layers={r.layers} " ++
    s!"samples={r.samples} tiling={r.tiling} usage={r.usage} sharing={r.sharing} " ++
    s!"layout={r.layout.code}"

private def renderPassText (r : RenderPassRequest) : String :=
  let dependencies := bracketed [r.dependency.text]
  s!"attachment={r.format.code}/samples1/load1/store0/sload2/sstore1/" ++
    s!"{r.initial.code}->{r.final.code} subpass=0/[0@{r.during.code}] dependencies={dependencies}"

private def samplerText (r : SamplerRequest) : String :=
  let enabled := bit r.anisotropy.isSome
  let most := Binary32.bitsText (r.anisotropy.getD 1.0)
  let zero := Binary32.bitsText 0.0
  s!"mag=1 min=1 mip=1 address=0,0,0 bias={zero} anisotropy={enabled}/{most} compare=0/7 " ++
    s!"lod={zero}..{zero} border=3 unnormalized=0"

/-- The arguments of a request. -/
def arguments : Creation → String
  | apiInstance r => instanceText r
  | messenger r => s!"severity={r.severities} types={r.types}"
  | surface _ | semaphore => ""
  | device r => deviceText r
  | commandPool r => s!"flags={r.flags} family={r.queueFamily}"
  | descriptorPool r =>
    let sizes := bracketed (r.sizes.map fun (type, count) => s!"{type}:{count}")
    s!"flags={r.flags} max_sets={r.maxSets} sizes={sizes}"
  | swapchain r => swapchainText r
  | image r => imageText r
  | view r =>
    let range := r.range.text
    s!"image={r.image.number} type=1 format={r.format.code} components=0,0,0,0 range={range}"
  | renderPass r => renderPassText r
  | framebuffer r =>
    let attachments := handleList [r.view]
    let extent := r.extent.text
    s!"render_pass={r.renderPass.number} attachments={attachments} extent={extent} " ++
    s!"layers={r.layers}"
  | fence signaled =>
    let flags := bit signaled
    s!"flags={flags}"
  | sampler r => samplerText r
  | commandBuffer pool => s!"pool={pool.number} level=0 count=1"
  | buffer r => s!"size={r.bytes} usage={r.usage} sharing={r.sharing}"
  | memory r => s!"size={r.bytes} type={r.type}"

end Creation

private def Submission.text (s : Submission) : String :=
  let waits := handleList (s.waits.map Prod.fst)
  let stages := bracketed (s.waits.map fun (_, stages) => toString stages)
  let commands := handleList s.commands
  let signals := handleList s.signals
  s!"wait={waits} stages={stages} commands={commands} signal={signals} fence={s.fence.number}"

/-- The arguments of an operation. -/
def Operation.arguments : Operation → String
  | waitForFence fence timeoutNs =>
    let fences := handleList [fence]
    s!"fences={fences} all=1 timeout={timeoutNs}"
  | resetFence fence =>
    let fences := handleList [fence]
    s!"fences={fences}"
  | resetCommands buffer => s!"command={buffer.number} flags=0"
  | beginCommands buffer => s!"command={buffer.number} flags=1"
  | endCommands buffer => s!"command={buffer.number}"
  | submit queue work =>
    let work := work.text
    s!"queue={queue.number} {work}"
  | queueIdle queue => s!"queue={queue.number}"
  | deviceIdle => ""
  | bindBuffer buffer memory offset =>
    s!"buffer={buffer.number} memory={memory.number} offset={offset}"
  | bindImage image memory offset =>
    s!"image={image.number} memory={memory.number} offset={offset}"
  | mapMemory memory offset bytes => s!"memory={memory.number} offset={offset} size={bytes} flags=0"

/-- The function of a command. -/
def Command.function : Command → String
  | beginPass _ => "vkCmdBeginRenderPass"
  | endPass => "vkCmdEndRenderPass"
  | barrier _ => "vkCmdPipelineBarrier"
  | copy _ => "vkCmdCopyBufferToImage"

-- Barriers leave the queue family that owns the image as it is.
private def ignoredFamily : Nat := 0xffffffff

private def barrierText (b : ImageBarrier) : String :=
  let range := b.range.text
  s!"stages={b.change.sourceStage}->{b.change.targetStage} flags=0 memory=0 buffers=0 " ++
    s!"image={b.image.number} layout={b.old.code}->{b.new.code} " ++
    s!"access={b.change.sourceAccess}->{b.change.targetAccess} " ++
    s!"families={ignoredFamily}->{ignoredFamily} range={range}"

private def copyText (c : BufferCopy) : String :=
  let extent := c.extent.text
  let range := s!"{c.range.aspect}/{c.range.firstLevel}/{c.range.firstLayer}+{c.range.layers}"
  s!"buffer={c.buffer.number} image={c.image.number} layout={c.layout.code} " ++
    s!"buffer_at={c.offset}/{c.rowLength}/{c.imageHeight} layers={range} offset=0,0,0 " ++
    s!"extent={extent}x1"

/-- The arguments of a command after its command buffer. -/
def Command.arguments : Command → String
  | beginPass pass =>
    let area := pass.area.text
    let clear := bracketed [pass.clear.bitsText]
    s!"render_pass={pass.renderPass.number} framebuffer={pass.framebuffer.number} " ++
    s!"area=0,0 {area} clear={clear} contents=0"
  | endPass => ""
  | barrier b => barrierText b
  | copy c => copyText c

/-- The function that destroys objects of a kind. -/
def ObjectKind.releaseFunction : ObjectKind → String
  | .apiInstance => "vkDestroyInstance"
  | .messenger => "vkDestroyDebugUtilsMessengerEXT"
  | .surface => "vkDestroySurfaceKHR"
  | .device => "vkDestroyDevice"
  | .commandPool => "vkDestroyCommandPool"
  | .descriptorPool => "vkDestroyDescriptorPool"
  | .swapchain => "vkDestroySwapchainKHR"
  | .image => "vkDestroyImage"
  | .view => "vkDestroyImageView"
  | .renderPass => "vkDestroyRenderPass"
  | .framebuffer => "vkDestroyFramebuffer"
  | .semaphore => "vkDestroySemaphore"
  | .fence => "vkDestroyFence"
  | .sampler => "vkDestroySampler"
  | .buffer => "vkDestroyBuffer"
  | .memory => "vkFreeMemory"
  | .physicalDevice | .queue | .commandBuffer => ""

namespace DriverCall

/-- The function of a call, if it is one of the driver's. -/
def function? : DriverCall → Option String
  | loadLibrary | store _ _ => none
  | layers => some "vkEnumerateInstanceLayerProperties"
  | create request => some request.function
  | release object => some object.kind.releaseFunction
  | devices => some "vkEnumeratePhysicalDevices"
  | queueFamilies _ => some "vkGetPhysicalDeviceQueueFamilyProperties"
  | presents _ _ _ => some "vkGetPhysicalDeviceSurfaceSupportKHR"
  | properties _ => some "vkGetPhysicalDeviceProperties"
  | anisotropy _ => some "vkGetPhysicalDeviceFeatures"
  | memory _ => some "vkGetPhysicalDeviceMemoryProperties"
  | queue _ => some "vkGetDeviceQueue"
  | surfaceLimits _ _ => some "vkGetPhysicalDeviceSurfaceCapabilitiesKHR"
  | surfaceFormats _ _ => some "vkGetPhysicalDeviceSurfaceFormatsKHR"
  | swapchainImages _ => some "vkGetSwapchainImagesKHR"
  | bufferNeeds _ => some "vkGetBufferMemoryRequirements"
  | imageNeeds _ => some "vkGetImageMemoryRequirements"
  | perform operation => some operation.function
  | acquire _ _ _ => some "vkAcquireNextImageKHR"
  | present _ _ _ _ => some "vkQueuePresentKHR"
  | record _ command => some command.function
  | freeCommands _ _ => some "vkFreeCommandBuffers"
  | unmap _ => some "vkUnmapMemory"

/-- The arguments of a call. -/
def arguments : DriverCall → String
  | loadLibrary | store _ _ | layers | devices => ""
  | create request => request.arguments
  | release object =>
    let word := object.kind.word
    s!"{word}={object.number}"
  | queueFamilies device | properties device | anisotropy device | memory device =>
    s!"pd={device.number}"
  | presents device family surface =>
    s!"pd={device.number} family={family} surface={surface.number}"
  | queue family => s!"family={family} index=0"
  | surfaceLimits device surface | surfaceFormats device surface =>
    s!"pd={device.number} surface={surface.number}"
  | swapchainImages swapchain => s!"swapchain={swapchain.number}"
  | bufferNeeds buffer => s!"buffer={buffer.number}"
  | imageNeeds image => s!"image={image.number}"
  | perform operation => operation.arguments
  | acquire swapchain timeoutNs semaphore =>
    s!"swapchain={swapchain.number} timeout={timeoutNs} semaphore={semaphore.number} fence=0"
  | present q wait swapchain image =>
    let waits := handleList [wait]
    let swapchains := handleList [swapchain]
    let indices := bracketed [toString image]
    s!"queue={q.number} wait={waits} swapchains={swapchains} indices={indices}"
  | record buffer command =>
    let arguments := command.arguments
    if arguments.isEmpty then s!"command={buffer.number}"
    else s!"command={buffer.number} {arguments}"
  | freeCommands pool buffer =>
    let commands := handleList [buffer]
    s!"pool={pool.number} commands={commands}"
  | unmap mapped => s!"memory={mapped.number}"

/-- The written call. -/
def text? (call : DriverCall) : Option String :=
  call.function?.map fun function =>
    let arguments := call.arguments
    if arguments.isEmpty then function else s!"{function} {arguments}"

end DriverCall

end PaintPresenter.Vulkan
