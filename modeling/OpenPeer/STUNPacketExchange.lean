import OpenPeer.STUNPacket

/-!
# Requests and what answers them

How requests, indications and responses are made, and which packets a request takes
for its response. The random transaction ID is an argument.
-/
namespace OpenPeer

namespace STUNPacket

def errorCodeTryAlternate : UInt16 := 300
def errorCodeBadRequest : UInt16 := 400
def errorCodeUnauthorized : UInt16 := 401
def errorCodeUnknownAttribute : UInt16 := 420
def errorCodeStaleNonce : UInt16 := 438
def errorCodeServerError : UInt16 := 500
def errorCodeForbidden : UInt16 := 403
def errorCodeAllocationMismatch : UInt16 := 437
def errorCodeWrongCredentials : UInt16 := 441
def errorCodeUnsupportedTransportProtocol : UInt16 := 442
def errorCodeAllocationQuoteReached : UInt16 := 486
def errorCodeInsufficientCapacity : UInt16 := 508
def errorCodeRoleConflict : UInt16 := 487

/-- The bytes of a text. -/
def ascii (text : String) : List UInt8 := text.toList.map fun c => UInt8.ofNat c.toNat

def errorReason (errorCode : UInt16) : String :=
  if errorCode = errorCodeTryAlternate then "Try Alternate"
  else if errorCode = errorCodeBadRequest then "Bad Request"
  else if errorCode = errorCodeUnauthorized then "Unauthorized"
  else if errorCode = errorCodeUnknownAttribute then "Unknown Attribute"
  else if errorCode = errorCodeStaleNonce then "Stale Nonce"
  else if errorCode = errorCodeServerError then "Server Error"
  else if errorCode = errorCodeForbidden then "Forbidden"
  else if errorCode = errorCodeAllocationMismatch then "Allocation Mismatch"
  else if errorCode = errorCodeWrongCredentials then "Wrong Credentials"
  else if errorCode = errorCodeUnsupportedTransportProtocol then "Unsupported Transport Protocol"
  else if errorCode = errorCodeAllocationQuoteReached then "Allocation Quota Reached"
  else if errorCode = errorCodeInsufficientCapacity then "Insufficient Capacity"
  else if errorCode = errorCodeRoleConflict then "Role Conflict"
  else "Unknown"

def createRequest (method : Methods) (transactionID : Vector UInt8 12) : STUNPacket :=
  { mClass := .request, mMethod := method, mTransactionID := transactionID }

def createIndication (method : Methods) (transactionID : Vector UInt8 12) : STUNPacket :=
  { createRequest method transactionID with mClass := .indication }

def createResponse (request : STUNPacket) : STUNPacket :=
  { mClass := .response, mMethod := request.mMethod, mMagicCookie := request.mMagicCookie,
    mFingerprintIncluded := request.mFingerprintIncluded, mTransactionID := request.mTransactionID }

def createErrorResponse (request : STUNPacket) : STUNPacket :=
  let errorCode := if request.mErrorCode = 0 then errorCodeServerError else request.mErrorCode
  { createResponse request with
    mClass := .errorResponse
    mErrorCode := errorCode
    mReason := ascii (errorReason errorCode)
    mUnknownAttributes := if errorCode = errorCodeUnknownAttribute then request.mUnknownAttributes else [] }

/-- The packet answers the request and has what a response to it must have. -/
def isValidResponseTo (ext : Externals) (stun request : STUNPacket) (allowedRFCs : UInt8) : Bool :=
  request.mClass = .request ∧
  (stun.mClass = .response ∨ stun.mClass = .errorResponse) ∧
  stun.mMethod = request.mMethod ∧
  stun.mMagicCookie = request.mMagicCookie ∧
  stun.mTransactionID = request.mTransactionID ∧
  stun.isLegal ext (request.guessRFC ext allowedRFCs) ∧
  (request.hasAttribute ext .messageIntegrity → stun.mClass = .response → stun.hasAttribute ext .messageIntegrity)

theorem createErrorResponse_mErrorCode {request : STUNPacket} (h : request.mErrorCode ≠ 0) :
    (createErrorResponse request).mErrorCode = request.mErrorCode := if_neg h

end STUNPacket

end OpenPeer
