import DataForge.Domain.Profile
import DataForge.Foundation.Json

namespace DataForge.Domain.TextOcr

open DataForge.Foundation.Strings
open DataForge.Foundation.Scores
open DataForge.Foundation.Json
open DataForge.Domain.Common

inductive TextOcrSourceKind where
  | supportMessages
  | ocrRecords
deriving DecidableEq

def TextOcrSourceKind.value : TextOcrSourceKind → Text
  | .supportMessages => "support_messages".toList
  | .ocrRecords => "ocr_records".toList

structure TextValidationIssue where
  lineNumber : Nat
  objectId : Option Text
  reasonCode : String
  message : String
deriving DecidableEq

structure TextDuplicateGroup where
  textSha256 : Sha256Digest
  objectIds : List NonEmptyStr
  count : Nat
deriving DecidableEq

inductive PiiCategory where
  | email
  | phone
  | passport
  | paymentCard
  | bankAccount
  | secret
deriving DecidableEq

def PiiCategory.value : PiiCategory → Text
  | .email => "email".toList
  | .phone => "phone".toList
  | .passport => "passport".toList
  | .paymentCard => "payment_card".toList
  | .bankAccount => "bank_account".toList
  | .secret => "secret".toList

structure PiiFinding where
  category : PiiCategory
  occurrenceCount : Nat
deriving DecidableEq

structure TextPiiFindingsForRecord (F : Type) [ScoreLike F] where
  objectId : NonEmptyStr
  findings : List PiiFinding
  piiTokenCount : Nat
  piiRiskScore : Score F
  redactedTextSha256 : Sha256Digest

structure TextOcrSourceReport (F : Type) [ScoreLike F] where
  sourceKind : TextOcrSourceKind
  sourceName : Text
  recordCount : Nat
  validRecordCount : Nat
  issueCount : Nat
  issues : List TextValidationIssue
  duplicateGroups : List TextDuplicateGroup
  duplicateRecordCount : Nat
  duplicateObjectIds : List NonEmptyStr
  averageTextLength : F
  minTextLength : Nat
  maxTextLength : Nat
  averageOcrConfidence : Option F
  piiFindings : List (TextPiiFindingsForRecord F)
  piiTokenCount : Nat
  piiRecordCount : Nat
  redactedRecordCount : Nat
  redactedArtifactUri : Option Text
  redactedArtifactHash : Option Text
  reviewQueueObjectIds : List NonEmptyStr

/-- The report of all sources, over the totals that the dataset score reads. -/
structure TextOcrReport (F : Type) [ScoreLike F] extends Profile.TextOcrReport where
  sources : List (TextOcrSourceReport F)
  totalIssueCount : Nat
  totalDuplicateGroupCount : Nat
  totalPiiTokenCount : Nat
  reviewQueueObjectIds : List NonEmptyStr

end DataForge.Domain.TextOcr
