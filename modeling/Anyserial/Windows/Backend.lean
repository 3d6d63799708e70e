import Anyserial.Windows.Kernel32

/-! The lifecycle and the configuration of the Windows backend. -/
set_option autoImplicit false

namespace Anyserial.Windows

open Kit

def noRuntime : PyExc :=
  .serialError .unsupportedAsyncBackendError
    ⟨none, "anyserial Windows backend requires a running asyncio or trio event loop; none detected. Open the port " ++
      "from inside an async task.", none⟩

def notProactor : PyExc :=
  .serialError .unsupportedPlatformError
    ⟨none, "anyserial requires asyncio.ProactorEventLoop on Windows. This is the default since Python 3.8. If you have " ++
      "overridden the event loop policy, switch back to WindowsProactorEventLoopPolicy: " ++
      "asyncio.set_event_loop_policy(asyncio.WindowsProactorEventLoopPolicy()).", none⟩

/-- `detect_runtime`: asyncio is probed first, and it has to run a proactor. -/
def detectRuntime : EventLoop → Except PyExc RuntimeFlavour
  | .proactor => .ok .asyncio
  | .selector => .error notProactor
  | .trio => .ok .trio
  | .none => .error noRuntime

def alreadyOpen (path : String) : WinExc :=
  .raised (.runtimeError ("WindowsBackend already open on '" ++ path ++ "'"))

def closedError (path : String) : WinExc :=
  .raised (.serialError .serialClosedError ⟨some (.other 0), "WindowsBackend is closed", some path⟩)

def raiseIfClosed : Win Unit := do
  let backend ← getBackend
  if backend.isOpen then pure () else throw (closedError backend.path)

/-- `_apply_dcb`: reads the DCB of the driver, overlays the configuration and writes it back. -/
def applyDcb (config : SerialConfig) : Win Unit := do
  let backend ← getBackend
  kernelCall .getCommState backend.handle
  let host ← getHost
  let dcb := host.device.dcb.applyConfig config
  kernelCall .setCommState backend.handle
  modifyDevice fun device => { device with dcb := dcb }

/-- `DEFAULT_INPUT_QUEUE` and `DEFAULT_OUTPUT_QUEUE`. -/
def defaultQueues : Nat × Nat := (4096, 4096)

/-- `EV_CTS | EV_DSR | EV_RLSD | EV_BREAK | EV_ERR | EV_RING`. -/
def evAllModem : Nat := 0x0008 ||| 0x0010 ||| 0x0020 ||| 0x0040 ||| 0x0080 ||| 0x0100

/-- The steps of `open` that close the handle when they fail. -/
def setUpComm (handle : Handle) (config : SerialConfig) : Win Unit := do
  kernelCall .setupComm handle
  modifyDevice fun device => { device with queues := defaultQueues }
  applyDcb config
  kernelCall .setCommTimeouts handle
  modifyDevice fun device => { device with timeouts := buildReadAnyTimeouts }

/-- The steps of `open` after them. -/
def attach (handle : Handle) : Win Unit := do
  let backend ← getBackend
  if backend.runtime = some .trio then registerIocp handle
  else do
    modifyBackend fun backend => { backend with handleWrapper := some handle }
    registerIocp handle
  setCommMask handle evAllModem

/-- `WindowsBackend.open`. -/
def openPort (path : String) (config : SerialConfig) : Win Unit := do
  let backend ← getBackend
  if backend.isOpen then throw (alreadyOpen backend.path)
  else do
    modifyBackend fun backend => { backend with path := path }
    let host ← getHost
    match detectRuntime host.eventLoop with
    | .error exc => throw (.raised exc)
    | .ok flavour => do
        modifyBackend fun backend => { backend with runtime := some flavour }
        let handle ← translating .openPort path (createFile (normaliseComPath path))
        modifyBackend fun backend => { backend with handle := handle }
        exceptOSError (setUpComm handle config) fun exc => do
          suppressOSError (closeHandle handle)
          modifyBackend fun backend => { backend with handle := 0, isOpen := false }
          throw (winerrorToException exc .openPort path)
        attach handle
        modifyBackend fun backend => { backend with config := some config, isOpen := true }

/-- `WindowsBackend.aclose`. Nothing in it is awaited. -/
def aclose : Win Unit := do
  let backend ← getBackend
  if backend.isOpen then do
    modifyBackend fun backend => { backend with isOpen := false, handle := 0, handleWrapper := none }
    suppressOSError (setCommMask backend.handle 0)
    suppressOSError (kernelCall .purgeComm backend.handle)
    suppressOSError (closeHandle backend.handle)
  else pure ()

/-- `WindowsBackend.configure`. -/
def configure (config : SerialConfig) : Win Unit := do
  raiseIfClosed
  let backend ← getBackend
  translating .ioctl backend.path (applyDcb config)
  modifyBackend fun backend => { backend with config := some config }

end Anyserial.Windows
