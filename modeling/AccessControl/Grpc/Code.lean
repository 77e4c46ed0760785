/-!
# gRPC codes

The outcome of a gRPC call is one of seventeen codes. On the wire a code is a decimal number; any
other text counts as the code for unknown errors. Each code has a fixed description.
-/

namespace AccessControl.Grpc

def descriptions : List String :=
  ["The operation completed successfully",
    "The operation was cancelled",
    "Unknown error",
    "Client specified an invalid argument",
    "Deadline expired before operation could complete",
    "Some requested entity was not found",
    "Some entity that we attempted to create already exists",
    "The caller does not have permission to execute the specified operation",
    "Some resource has been exhausted",
    "The system is not in a state required for the operation's execution",
    "The operation was aborted",
    "Operation was attempted past the valid range",
    "Operation is not implemented or not supported",
    "Internal error",
    "The service is currently unavailable",
    "Unrecoverable data loss or corruption",
    "The request does not have valid authentication credentials"]

abbrev Code := Fin 17

namespace Code

def ok : Code := 0

def unknown : Code := 2

def internal : Code := 13

def description (code : Code) : String := descriptions.getD code.val ""

def ofText (text : String) : Code :=
  ((List.finRange 17).find? fun code => toString code.val == text).getD unknown

end Code

end AccessControl.Grpc
