import DtoForge.Main
import DtoForge.Proofs.ApiDoc.Literal
import DtoForge.Proofs.ApiDoc.OptionName
import DtoForge.Proofs.ApiDoc.Tag
import DtoForge.Proofs.Code.Merging
import DtoForge.Proofs.Code.Specifier
import DtoForge.Proofs.Code.TypeText
import DtoForge.Proofs.CommandLine.Agreement
import DtoForge.Proofs.CommandLine.Inspection
import DtoForge.Proofs.Dto.Admission
import DtoForge.Proofs.Dto.Confinement
import DtoForge.Proofs.Dto.Consistency
import DtoForge.Proofs.Dto.Dangling
import DtoForge.Proofs.Dto.Decoration
import DtoForge.Proofs.Dto.Failure
import DtoForge.Proofs.Dto.Independence
import DtoForge.Proofs.Dto.Layout
import DtoForge.Proofs.Dto.Nested
import DtoForge.Proofs.Dto.RelationName
import DtoForge.Proofs.Dto.Undecorated
import DtoForge.Proofs.Dto.Visibility
import DtoForge.Proofs.Schema.Encoding
import DtoForge.Proofs.Schema.Marker
import DtoForge.Proofs.Settings.Layering
import DtoForge.Proofs.Settings.Selection
import DtoForge.Proofs.Validation.Arrangement
import DtoForge.Proofs.Validation.Documentation
import DtoForge.Proofs.Validation.Each
import DtoForge.Proofs.Validation.Joining
import DtoForge.Proofs.Validation.Lifting
import DtoForge.Settings.Change
