import DiscountPolicy.Session
import DiscountPolicy.Proofs.Decimal
import DiscountPolicy.Proofs.Double.Layout
import DiscountPolicy.Proofs.Expression.Grammar
import DiscountPolicy.Proofs.Expression.RoundTrip
import DiscountPolicy.Proofs.Expression.Spacing
import DiscountPolicy.Proofs.Expression.Composition
import DiscountPolicy.Proofs.Expression.Positions
import DiscountPolicy.Proofs.Expression.Defects
import DiscountPolicy.Proofs.Wire.Grammar
import DiscountPolicy.Proofs.Constraint
import DiscountPolicy.Proofs.Cache
import DiscountPolicy.Proofs.Cache.Accounting
import DiscountPolicy.Proofs.Cache.Interleaving
import DiscountPolicy.Proofs.Json.Number
import DiscountPolicy.Proofs.Json.Quoted
import DiscountPolicy.Proofs.Json.Token
import DiscountPolicy.Proofs.Json.Text
import DiscountPolicy.Proofs.Wire.Text
import DiscountPolicy.Proofs.Client
import DiscountPolicy.Proofs.Client.Assignment
import DiscountPolicy.Proofs.Channel
import DiscountPolicy.Proofs.Constraint.Table
import DiscountPolicy.Proofs.Client.Tokens
import DiscountPolicy.Proofs.Session
import DiscountPolicy.Proofs.Session.Access
import DiscountPolicy.Proofs.Decimal.Grammar
import DiscountPolicy.Proofs.Double.Value
import DiscountPolicy.Proofs.Double.Rounded
import DiscountPolicy.Proofs.Scalar
import DiscountPolicy.Proofs.Constraint.Bounds
import DiscountPolicy.Proofs.Client.Reply
import DiscountPolicy.Proofs.Text.Blank
import DiscountPolicy.Proofs.Logging
import DiscountPolicy.Proofs.Url
import DiscountPolicy.Proofs.Client.Address
import DiscountPolicy.Proofs.Config
import DiscountPolicy.Proofs.Session.Config
import DiscountPolicy.Proofs.Session.Image
import DiscountPolicy.Proofs.Json.Escape
import DiscountPolicy.Proofs.Json.Grammar
import DiscountPolicy.Proofs.Client.Classification
import DiscountPolicy.Proofs.TokenStores.Sharing
import DiscountPolicy.Proofs.Double.Arithmetic
import DiscountPolicy.Proofs.Json.Scaling
