/-! # Known exception classes — the hierarchy every program starts from

    Three families of classes exist before any class is defined: the general
    ones, the errors of this library, and the errors of the client that calls
    remote services.  Each has a name, a home module and a fixed lineage: the
    line of its ancestors, nearest first. -/

namespace FaultResponse

/-- A class that exists from the start and that programs can name. -/
inductive Known
  -- general classes
  | object | baseException | exception | keyboardInterrupt | systemExit
  | generatorExit | valueError | unicodeError | typeError | runtimeError | recursionError
  | notImplementedError | lookupError | keyError | indexError | arithmeticError
  | zeroDivisionError | overflowError | osError | connectionError | connectionResetError
  | connectionAbortedError | connectionRefusedError | brokenPipeError | timeoutError
  | fileNotFoundError | fileExistsError | permissionError | blockingIoError
  | childProcessError | interruptedError | isADirectoryError | notADirectoryError
  | processLookupError | attributeError
  | assertionError | stopIteration | memoryError | eofError | warning | userWarning
  -- errors of this library
  | domainError | accessDenied | notFound | invalidRequest | userError | illegalState
  | remoteCallError | remoteContextError | responseCommitted | scopeFinalized
  -- errors of the client for remote calls
  | httpError | invalidUrl | streamError | streamConsumed | streamClosed | requestError
  | httpStatusError | transportError | decodingError | tooManyRedirects | timeoutException
  | connectTimeout | readTimeout | writeTimeout | poolTimeout | networkError | readError
  | writeError | connectError | closeError | proxyError | unsupportedProtocol
  | protocolError | localProtocolError | remoteProtocolError
  deriving DecidableEq, Repr

namespace Known

/-- Every known class. -/
def all : List Known :=
  [.object, .baseException, .exception, .keyboardInterrupt, .systemExit,
   .generatorExit, .valueError, .unicodeError, .typeError, .runtimeError, .recursionError,
   .notImplementedError, .lookupError, .keyError, .indexError, .arithmeticError,
   .zeroDivisionError, .overflowError, .osError, .connectionError, .connectionResetError,
   .connectionAbortedError, .connectionRefusedError, .brokenPipeError, .timeoutError,
   .fileNotFoundError, .fileExistsError, .permissionError, .blockingIoError,
   .childProcessError, .interruptedError, .isADirectoryError, .notADirectoryError,
   .processLookupError, .attributeError,
   .assertionError, .stopIteration, .memoryError, .eofError, .warning, .userWarning,
   .domainError, .accessDenied, .notFound, .invalidRequest, .userError, .illegalState,
   .remoteCallError, .remoteContextError, .responseCommitted, .scopeFinalized, .httpError,
   .invalidUrl, .streamError, .streamConsumed, .streamClosed, .requestError,
   .httpStatusError, .transportError, .decodingError, .tooManyRedirects, .timeoutException,
   .connectTimeout, .readTimeout, .writeTimeout, .poolTimeout, .networkError, .readError,
   .writeError, .connectError, .closeError, .proxyError, .unsupportedProtocol,
   .protocolError, .localProtocolError, .remoteProtocolError]

/-- The name of the class. -/
def name : Known → String
  | .object => "object"
  | .baseException => "BaseException"
  | .exception => "Exception"
  | .keyboardInterrupt => "KeyboardInterrupt"
  | .systemExit => "SystemExit"
  | .generatorExit => "GeneratorExit"
  | .valueError => "ValueError"
  | .unicodeError => "UnicodeError"
  | .typeError => "TypeError"
  | .runtimeError => "RuntimeError"
  | .recursionError => "RecursionError"
  | .notImplementedError => "NotImplementedError"
  | .lookupError => "LookupError"
  | .keyError => "KeyError"
  | .indexError => "IndexError"
  | .arithmeticError => "ArithmeticError"
  | .zeroDivisionError => "ZeroDivisionError"
  | .overflowError => "OverflowError"
  | .osError => "OSError"
  | .connectionError => "ConnectionError"
  | .connectionResetError => "ConnectionResetError"
  | .connectionAbortedError => "ConnectionAbortedError"
  | .connectionRefusedError => "ConnectionRefusedError"
  | .brokenPipeError => "BrokenPipeError"
  | .timeoutError => "TimeoutError"
  | .fileNotFoundError => "FileNotFoundError"
  | .fileExistsError => "FileExistsError"
  | .permissionError => "PermissionError"
  | .blockingIoError => "BlockingIOError"
  | .childProcessError => "ChildProcessError"
  | .interruptedError => "InterruptedError"
  | .isADirectoryError => "IsADirectoryError"
  | .notADirectoryError => "NotADirectoryError"
  | .processLookupError => "ProcessLookupError"
  | .attributeError => "AttributeError"
  | .assertionError => "AssertionError"
  | .stopIteration => "StopIteration"
  | .memoryError => "MemoryError"
  | .eofError => "EOFError"
  | .warning => "Warning"
  | .userWarning => "UserWarning"
  | .domainError => "ErrorShieldError"
  | .accessDenied => "AccessDeniedError"
  | .notFound => "NotFoundError"
  | .invalidRequest => "InvalidRequestError"
  | .userError => "UserError"
  | .illegalState => "IllegalStateError"
  | .remoteCallError => "UpstreamCallError"
  | .remoteContextError => "UpstreamErrorWrapper"
  | .responseCommitted => "ResponseCommittedError"
  | .scopeFinalized => "DiagnosticScopeFinalizedError"
  | .httpError => "HTTPError"
  | .invalidUrl => "InvalidURL"
  | .streamError => "StreamError"
  | .streamConsumed => "StreamConsumed"
  | .streamClosed => "StreamClosed"
  | .requestError => "RequestError"
  | .httpStatusError => "HTTPStatusError"
  | .transportError => "TransportError"
  | .decodingError => "DecodingError"
  | .tooManyRedirects => "TooManyRedirects"
  | .timeoutException => "TimeoutException"
  | .connectTimeout => "ConnectTimeout"
  | .readTimeout => "ReadTimeout"
  | .writeTimeout => "WriteTimeout"
  | .poolTimeout => "PoolTimeout"
  | .networkError => "NetworkError"
  | .readError => "ReadError"
  | .writeError => "WriteError"
  | .connectError => "ConnectError"
  | .closeError => "CloseError"
  | .proxyError => "ProxyError"
  | .unsupportedProtocol => "UnsupportedProtocol"
  | .protocolError => "ProtocolError"
  | .localProtocolError => "LocalProtocolError"
  | .remoteProtocolError => "RemoteProtocolError"

/-- The module that holds the general classes. -/
def generalModule : String := "builtins"

/-- The module that holds the errors of this library. -/
def domainModule : String := "errorshield.domain.errors"

/-- The module that holds the errors of the client. -/
def clientModule : String := "httpx"

/-- The module in which the class is defined. -/
def home : Known → String
  | .domainError | .accessDenied | .notFound | .invalidRequest | .userError | .illegalState
  | .remoteCallError | .remoteContextError | .responseCommitted | .scopeFinalized
    => domainModule
  | .httpError | .invalidUrl | .streamError | .streamConsumed | .streamClosed
  | .requestError | .httpStatusError | .transportError | .decodingError | .tooManyRedirects
  | .timeoutException | .connectTimeout | .readTimeout | .writeTimeout | .poolTimeout
  | .networkError | .readError | .writeError | .connectError | .closeError | .proxyError
  | .unsupportedProtocol | .protocolError | .localProtocolError | .remoteProtocolError
    => clientModule
  | _ => generalModule

/-- The name under which a class is asked for: the client's classes stand behind
    the name of their module. -/
def label (k : Known) : String :=
  if k.home = clientModule then clientModule ++ "." ++ k.name else k.name

/-- The class asked for by a label. -/
def ofLabel? (label : String) : Option Known :=
  all.find? fun k => decide (k.label = label)

/-- The proper ancestors of the class, nearest first. -/
def ancestors : Known → List Known
  | .object => []
  | .baseException => [.object]
  | .exception | .keyboardInterrupt | .systemExit | .generatorExit =>
      [.baseException, .object]
  | .valueError | .typeError | .runtimeError | .lookupError | .arithmeticError | .osError
  | .attributeError | .assertionError | .stopIteration | .memoryError | .eofError
  | .warning | .domainError | .httpError | .invalidUrl => [.exception, .baseException, .object]
  | .unicodeError => [.valueError, .exception, .baseException, .object]
  | .recursionError | .notImplementedError | .scopeFinalized | .streamError =>
      [.runtimeError, .exception, .baseException, .object]
  | .keyError | .indexError => [.lookupError, .exception, .baseException, .object]
  | .zeroDivisionError | .overflowError =>
      [.arithmeticError, .exception, .baseException, .object]
  | .connectionError | .timeoutError | .fileNotFoundError | .fileExistsError
  | .permissionError | .blockingIoError | .childProcessError | .interruptedError
  | .isADirectoryError | .notADirectoryError | .processLookupError | .responseCommitted =>
      [.osError, .exception, .baseException, .object]
  | .connectionResetError | .connectionAbortedError | .connectionRefusedError
  | .brokenPipeError =>
      [.connectionError, .osError, .exception, .baseException, .object]
  | .userWarning => [.warning, .exception, .baseException, .object]
  | .accessDenied | .notFound | .invalidRequest | .userError | .remoteCallError
  | .remoteContextError => [.domainError, .exception, .baseException, .object]
  | .illegalState => [.domainError, .runtimeError, .exception, .baseException, .object]
  | .streamConsumed | .streamClosed =>
      [.streamError, .runtimeError, .exception, .baseException, .object]
  | .requestError | .httpStatusError => [.httpError, .exception, .baseException, .object]
  | .transportError | .decodingError | .tooManyRedirects =>
      [.requestError, .httpError, .exception, .baseException, .object]
  | .timeoutException | .networkError | .proxyError | .unsupportedProtocol | .protocolError =>
      [.transportError, .requestError, .httpError, .exception, .baseException, .object]
  | .connectTimeout | .readTimeout | .writeTimeout | .poolTimeout =>
      [.timeoutException, .transportError, .requestError, .httpError, .exception, .baseException,
       .object]
  | .readError | .writeError | .connectError | .closeError =>
      [.networkError, .transportError, .requestError, .httpError, .exception, .baseException,
       .object]
  | .localProtocolError | .remoteProtocolError =>
      [.protocolError, .transportError, .requestError, .httpError, .exception, .baseException,
       .object]

/-- The class and its ancestors, nearest first. -/
def line (k : Known) : List Known :=
  k :: k.ancestors

end Known

/-! ## Internal classes -/

/-- A class that no program here names: its exceptions are made where something fails,
    and they come with a text that is ready. -/
inductive Internal
  /-- A text has no octets. -/
  | encodeError
  /-- Octets make no text. -/
  | decodeError
  /-- Several exceptions left one place. -/
  | group
  deriving DecidableEq, Repr

namespace Internal

/-- The name of the class. -/
def name : Internal → String
  | encodeError => "UnicodeEncodeError"
  | decodeError => "UnicodeDecodeError"
  | group => "BaseExceptionGroup"

/-- The ancestors of the class, nearest first. -/
def ancestors : Internal → List Known
  | encodeError | decodeError => Known.unicodeError.line
  | group => Known.baseException.line

end Internal

end FaultResponse
