/-!
# Composite characters

The primary composites outside of Hangul, in ascending order: for each, the distance from the one
before it, and the two code points that it is made of.
-/

namespace ArtifactCache.Idna

/-- The primary composites and their two parts, in runs. -/
def compositesText : String :=
  String.join
    ["C5c,1t,lcC1,1t,ldC1,1t,leC1,1t,lfC1,1t,lkC1,1t,lmC2,1v,mfC1,1x,lcC1,1x,ldC1,1x,leC1,1x,lk",
      "C1,21,lcC1,21,ldC1,21,leC1,21,lkC2,26,lfC1,27,lcC1,27,ldC1,27,leC1,27,lfC1,27,lkC3,2d,lc",
      "C1,2d,ldC1,2d,leC1,2d,lkC1,2h,ldC3,2p,lcC1,2p,ldC1,2p,leC1,2p,lfC1,2p,lkC1,2p,lmC2,2r,mf",
      "C1,2t,lcC1,2t,ldC1,2t,leC1,2t,lkC1,2x,lcC1,2x,ldC1,2x,leC1,2x,lkC2,32,lfC1,33,lcC1,33,ld",
      "C1,33,leC1,33,lfC1,33,lkC3,39,lcC1,39,ldC1,39,leC1,39,lkC1,3d,ldC2,3d,lkC1,1t,lgC1,2p,lg",
      "C1,1t,liC1,2p,liC1,1t,mgC1,2p,mgC1,1v,ldC1,2r,ldC1,1v,leC1,2r,leC1,1v,ljC1,2r,ljC1,1v,lo",
      "C1,2r,loC1,1w,loC1,2s,loC3,1x,lgC1,2t,lgC1,1x,liC1,2t,liC1,1x,ljC1,2t,ljC1,1x,mgC1,2t,mg",
      "C1,1x,loC1,2t,loC1,1z,leC1,2v,leC1,1z,liC1,2v,liC1,1z,ljC1,2v,ljC1,1z,mfC1,2v,mfC1,20,le",
      "C1,2w,leC3,21,lfC1,2x,lfC1,21,lgC1,2x,lgC1,21,liC1,2x,liC1,21,mgC1,2x,mgC1,21,ljC4,22,le",
      "C1,2y,leC1,23,mfC1,2z,mfC2,24,ldC1,30,ldC1,24,mfC1,30,mfC1,24,loC1,30,loC5,26,ldC1,32,ld",
      "C1,26,mfC1,32,mfC1,26,loC1,32,loC4,27,lgC1,33,lgC1,27,liC1,33,liC1,27,lnC1,33,lnC3,2a,ld",
      "C1,36,ldC1,2a,mfC1,36,mfC1,2a,loC1,36,loC1,2b,ldC1,37,ldC1,2b,leC1,37,leC1,2b,mfC1,37,mf",
      "C1,2b,loC1,37,loC1,2c,mfC1,38,mfC1,2c,loC1,38,loC3,2d,lfC1,39,lfC1,2d,lgC1,39,lgC1,2d,li",
      "C1,39,liC1,2d,lmC1,39,lmC1,2d,lnC1,39,lnC1,2d,mgC1,39,mgC1,2f,leC1,3b,leC1,2h,leC1,3d,le",
      "C1,2h,lkC1,2i,ldC1,3e,ldC1,2i,ljC1,3e,ljC1,2i,loC1,3e,loCy,27,m3C1,33,m3Ce,2d,m3C1,39,m3",
      "Ct,1t,loC1,2p,loC1,21,loC1,2x,loC1,27,loC1,33,loC1,2d,loC1,39,loC1,64,lgC1,70,lgC1,64,ld",
      "C1,70,ldC1,64,loC1,70,loC1,64,lcC1,70,lcC2,5g,lgC1,6c,lgC1,fa,lgC1,fb,lgC1,5i,lgC1,6e,lg",
      "C3,1z,loC1,2v,loC1,23,loC1,2z,loC1,27,mgC1,33,mgC1,dm,lgC1,dn,lgC1,c7,loC1,ia,loC1,2y,lo",
      "C4,1z,ldC1,2v,ldC3,26,lcC1,32,lcC1,5h,ldC1,6d,ldC1,5i,ldC1,6e,ldC1,60,ldC1,6w,ldC1,1t,lr",
      "C1,2p,lrC1,1t,ltC1,2p,ltC1,1x,lrC1,2t,lrC1,1x,ltC1,2t,ltC1,21,lrC1,2x,lrC1,21,ltC1,2x,lt",
      "C1,27,lrC1,33,lrC1,27,ltC1,33,ltC1,2a,lrC1,36,lrC1,2a,ltC1,36,ltC1,2d,lrC1,39,lrC1,2d,lt",
      "C1,39,ltC1,2b,meC1,37,meC1,2c,meC1,38,meC3,20,loC1,2w,loC7,1t,ljC1,2p,ljC1,1x,mfC1,2t,mf",
      "C1,5y,lgC1,6u,lgC1,5x,lgC1,6t,lgC1,27,ljC1,33,ljC1,fi,lgC1,fj,lgC1,2h,lgC1,3d,lgC9e,4o,ld",
      "C1,pd,ldC2,ph,ldC1,pj,ldC1,pl,ldC2,pr,ldC2,px,ldC1,q1,ldC1,qy,ldCq,pl,lkC1,px,lkC1,q9,ld",
      "C1,qd,ldC1,qf,ldC1,qh,ldC1,qz,ldCq,qh,lkC1,qt,lkC1,qn,ldC1,qt,ldC1,qx,ldC5,r6,ldC1,r6,lk",
      "C18,t1,lcC1,t1,lkC2,sz,ldC4,sm,lkC5,t6,ldC1,t4,lcC1,tf,liCb,t4,liCw,u0,liCn,tx,lcC1,tx,lk",
      "C2,tv,ldC4,uu,lkC5,u2,ldC1,u0,lcC1,ub,liCo,vo,lrC1,vp,lrC22,t2,liC1,ty,liCe,sw,liC1,ts,li",
      "C1,sw,lkC1,ts,lkC3,t1,liC1,tx,liC3,yg,lkC1,yh,lkC1,t2,lkC1,ty,lkC1,t3,lkC1,tz,lkC3,t4,lg",
      "C1,u0,lgC1,t4,lkC1,u0,lkC1,ta,lkC1,u6,lkC3,yw,lkC1,yx,lkC1,tp,lkC1,ul,lkC1,tf,lgC1,ub,lg",
      "C1,tf,lkC1,ub,lkC1,tf,lnC1,ub,lnC1,tj,lkC1,uf,lkC3,tn,lkC1,uj,lkC89,17r,18zC1,17r,190",
      "C1,18o,190C1,17r,191C1,18q,190C4a,1cl,190C2,1c1,190Ch,1ci,190Cgm,1t4,1toC8,1tc,1to",
      "C3,1tf,1toC47,1xj,1xaC1,1xj,1xzCak,287,28mC3,287,27yC1,287,28nC20,2aa,2c7C1i,2bq,2bi",
      "C1,2br,2biC1,2bq,2c7C3g,2fa,2fqC3c,2in,2j9C7,2iu,2j9C1,2iu,2jaC2,2iu,2iqC1,2iy,2j9",
      "C3j,2me,2m6C1,2mf,2m6C1,2me,2mvC3y,2qh,2q2C2,2qh,2q7C1,2qk,2q2C1,2qh,2qnCg8,36t,372",
      "C25c,5c5,5dhC2,5c7,5dhC2,5c9,5dhC2,5cb,5dhC2,5cd,5dhC4,5ch,5dhC15,5dm,5dhC2,5do,5dh",
      "C3,5dq,5dhC1,5dr,5dhC2,5du,5dhCjh,1t,mdC1,2p,mdC1,1u,ljC1,2q,ljC1,1u,mbC1,2q,mbC1,1u,mp",
      "C1,2q,mpC1,5j,ldC1,6f,ldC1,1w,ljC1,2s,ljC1,1w,mbC1,2s,mbC1,1w,mpC1,2s,mpC1,1w,mfC1,2s,mf",
      "C1,1w,mlC1,2s,mlC1,7m,lcC1,7n,lcC1,7m,ldC1,7n,ldC1,1x,mlC1,2t,mlC1,1x,moC1,2t,moC1,fc,li",
      "C1,fd,liC1,1y,ljC1,2u,ljC1,1z,lgC1,2v,lgC1,20,ljC1,2w,ljC1,20,mbC1,2w,mbC1,20,lkC1,2w,lk",
      "C1,20,mfC1,2w,mfC1,20,mmC1,2w,mmC1,21,moC1,2x,moC1,5r,ldC1,6n,ldC1,23,ldC1,2z,ldC1,23,mb",
      "C1,2z,mbC1,23,mpC1,2z,mpC1,24,mbC1,30,mbC1,5yu,lgC1,5yv,lgC1,24,mpC1,30,mpC1,24,mlC1,30,ml",
      "C1,25,ldC1,31,ldC1,25,ljC1,31,ljC1,25,mbC1,31,mbC1,26,ljC1,32,ljC1,26,mbC1,32,mbC1,26,mp",
      "C1,32,mpC1,26,mlC1,32,mlC1,5x,ldC1,6t,ldC1,5x,lkC1,6t,lkC1,98,lcC1,99,lcC1,98,ldC1,99,ld",
      "C1,28,ldC1,34,ldC1,28,ljC1,34,ljC1,2a,ljC1,36,ljC1,2a,mbC1,36,mbC1,5zu,lgC1,5zv,lgC1,2a,mp",
      "C1,36,mpC1,2b,ljC1,37,ljC1,2b,mbC1,37,mbC1,9m,ljC1,9n,ljC1,9s,ljC1,9t,ljC1,602,ljC1,603,lj",
      "C1,2c,ljC1,38,ljC1,2c,mbC1,38,mbC1,2c,mpC1,38,mpC1,2c,mlC1,38,mlC1,2d,mcC1,39,mcC1,2d,mo",
      "C1,39,moC1,2d,mlC1,39,mlC1,a0,ldC1,a1,ldC1,a2,lkC1,a3,lkC1,2e,lfC1,3a,lfC1,2e,mbC1,3a,mb",
      "C1,2f,lcC1,3b,lcC1,2f,ldC1,3b,ldC1,2f,lkC1,3b,lkC1,2f,ljC1,3b,ljC1,2f,mbC1,3b,mbC1,2g,lj",
      "C1,3c,ljC1,2g,lkC1,3c,lkC1,2h,ljC1,3d,ljC1,2i,leC1,3e,leC1,2i,mbC1,3e,mbC1,2i,mpC1,3e,mp",
      "C1,2w,mpC1,38,lkC1,3b,lmC1,3d,lmC2,an,ljC5,1t,mbC1,2p,mbC1,1t,llC1,2p,llC1,5e,ldC1,6a,ld",
      "C1,5e,lcC1,6a,lcC1,5e,llC1,6a,llC1,5e,lfC1,6a,lfC1,61s,leC1,61t,leC1,76,ldC1,77,ldC1,76,lc",
      "C1,77,lcC1,76,llC1,77,llC1,76,lfC1,77,lfC1,61s,liC1,61t,liC1,1x,mbC1,2t,mbC1,1x,llC1,2t,ll",
      "C1,1x,lfC1,2t,lfC1,5m,ldC1,6i,ldC1,5m,lcC1,6i,lcC1,5m,llC1,6i,llC1,5m,lfC1,6i,lfC1,62g,le",
      "C1,62h,leC1,21,llC1,2x,llC1,21,mbC1,2x,mbC1,27,mbC1,33,mbC1,27,llC1,33,llC1,5w,ldC1,6s,ld",
      "C1,5w,lcC1,6s,lcC1,5w,llC1,6s,llC1,5w,lfC1,6s,lfC1,630,leC1,631,leC1,bk,ldC1,bl,ldC1,bk,lc",
      "C1,bl,lcC1,bk,llC1,bl,llC1,bk,lfC1,bl,lfC1,bk,mbC1,bl,mbC1,2d,mbC1,39,mbC1,2d,llC1,39,ll",
      "C1,bz,ldC1,c0,ldC1,bz,lcC1,c0,lcC1,bz,llC1,c0,llC1,bz,lfC1,c0,lfC1,bz,mbC1,c0,mbC1,2h,lc",
      "C1,3d,lcC1,2h,mbC1,3d,mbC1,2h,llC1,3d,llC1,2h,lfC1,3d,lfC7,q9,lvC1,q9,lwC1,64g,lcC1,64h,lc",
      "C1,64g,ldC1,64h,ldC1,64g,n6C1,64h,n6C1,pd,lvC1,pd,lwC1,64o,lcC1,64p,lcC1,64o,ldC1,64p,ld",
      "C1,64o,n6C1,64p,n6C1,qd,lvC1,qd,lwC1,64w,lcC1,64x,lcC1,64w,ldC1,64x,ldC3,ph,lvC1,ph,lw",
      "C1,654,lcC1,655,lcC1,654,ldC1,655,ldC3,qf,lvC1,qf,lwC1,65c,lcC1,65d,lcC1,65c,ldC1,65d,ld",
      "C1,65c,n6C1,65d,n6C1,pj,lvC1,pj,lwC1,65k,lcC1,65l,lcC1,65k,ldC1,65l,ldC1,65k,n6C1,65l,n6",
      "C1,qh,lvC1,qh,lwC1,65s,lcC1,65t,lcC1,65s,ldC1,65t,ldC1,65s,n6C1,65t,n6C1,pl,lvC1,pl,lw",
      "C1,660,lcC1,661,lcC1,660,ldC1,661,ldC1,660,n6C1,661,n6C1,qn,lvC1,qn,lwC1,668,lcC1,669,lc",
      "C1,668,ldC1,669,ldC3,pr,lvC1,pr,lwC1,66g,lcC1,66h,lcC1,66g,ldC1,66h,ldC3,qt,lvC1,qt,lw",
      "C1,66o,lcC1,66p,lcC1,66o,ldC1,66p,ldC1,66o,n6C1,66p,n6C2,px,lwC2,66x,lcC2,66x,ldC2,66x,n6",
      "C1,qx,lvC1,qx,lwC1,674,lcC1,675,lcC1,674,ldC1,675,ldC1,674,n6C1,675,n6C1,q1,lvC1,q1,lw",
      "C1,67c,lcC1,67d,lcC1,67c,ldC1,67d,ldC1,67c,n6C1,67d,n6C1,q9,lcC2,qd,lcC2,qf,lcC2,qh,lc",
      "C2,qn,lcC2,qt,lcC2,qx,lcC4,64g,n9C1,64h,n9C1,64i,n9C1,64j,n9C1,64k,n9C1,64l,n9C1,64m,n9",
      "C1,64n,n9C1,64o,n9C1,64p,n9C1,64q,n9C1,64r,n9C1,64s,n9C1,64t,n9C1,64u,n9C1,64v,n9C1,65c,n9",
      "C1,65d,n9C1,65e,n9C1,65f,n9C1,65g,n9C1,65h,n9C1,65i,n9C1,65j,n9C1,65k,n9C1,65l,n9C1,65m,n9",
      "C1,65n,n9C1,65o,n9C1,65p,n9C1,65q,n9C1,65r,n9C1,674,n9C1,675,n9C1,676,n9C1,677,n9C1,678,n9",
      "C1,679,n9C1,67a,n9C1,67b,n9C1,67c,n9C1,67d,n9C1,67e,n9C1,67f,n9C1,67g,n9C1,67h,n9C1,67i,n9",
      "C1,67j,n9C1,q9,liC1,q9,lgC1,67k,n9C1,q9,n9C1,q4,n9C2,q9,n6C1,69i,n9C1,pd,liC1,pd,lg",
      "C1,pd,lcC2,pd,n9C5,4o,n6C1,67o,n9C1,qf,n9C1,q6,n9C2,qf,n6C1,69y,n9C1,ph,lcC2,pj,lcC2,pj,n9",
      "C1,69r,lcC1,69r,ldC1,69r,n6C1,qh,liC1,qh,lgC1,qy,lcC4,qh,n6C1,qy,n6C1,pl,liC1,pl,lg",
      "C1,pl,lcC3,6bi,lcC1,6bi,ldC1,6bi,n6C1,qt,liC1,qt,lgC1,qz,lcC2,qp,lvC1,qp,lwC1,qt,n6",
      "C1,qz,n6C1,px,liC1,px,lgC1,px,lcC2,pt,lwC1,4o,lcC5,67w,n9C1,qx,n9C1,r2,n9C2,qx,n6C1,6ba,n9",
      "C1,pr,lcC2,q1,lcC2,q1,n9Cbi,6mo,mwC1,6mq,mwCj,6ms,mwCv,6og,mwC1,6ok,mwC1,6oi,mwC1h,6pv,mw",
      "C5,6q0,mwC3,6q3,mwCo,6qr,mwC2,6qt,mwCr,6rg,mwC3,6rn,mwC3,6rp,mwC2,6rs,mwCn,1p,mwC2,6sh,mw",
      "Cb,6rx,mwC1,1o,mwC1,1q,mwC1,6sk,mwC1,6sl,mwC3,6sy,mwC1,6sz,mwC3,6t2,mwC1,6t3,mwC7,6t6,mw",
      "C1,6t7,mwC3,6te,mwC1,6tf,mwC3,6ti,mwC1,6tj,mwCz,6ua,mwC1,6ug,mwC1,6uh,mwC1,6uj,mw",
      "C1d,6t8,mwC1,6t9,mwC1,6tt,mwC1,6tu,mwC7,6uq,mwC1,6ur,mwC1,6us,mwC1,6ut,mwC2n3,9jf,9ll",
      "C2,9jh,9llC2,9jj,9llC2,9jl,9llC2,9jn,9llC2,9jp,9llC2,9jr,9llC2,9jt,9llC2,9jv,9llC2,9jx,9ll",
      "C2,9jz,9llC2,9k1,9llC3,9k4,9llC2,9k6,9llC2,9k8,9llC7,9kf,9llC1,9kf,9lmC2,9ki,9llC1,9ki,9lm",
      "C2,9kl,9llC1,9kl,9lmC2,9ko,9llC1,9ko,9lmC2,9kr,9llC1,9kr,9lmCn,9ja,9llCa,9lp,9llCe,9m3,9ll",
      "C2,9m5,9llC2,9m7,9llC2,9m9,9llC2,9mb,9llC2,9md,9llC2,9mf,9llC2,9mh,9llC2,9mj,9llC2,9ml,9ll",
      "C2,9mn,9llC2,9mp,9llC3,9ms,9llC2,9mu,9llC2,9mw,9llC7,9n3,9llC1,9n3,9lmC2,9n6,9llC1,9n6,9lm",
      "C2,9n9,9llC1,9n9,9lmC2,9nc,9llC1,9nc,9lmC2,9nf,9llC1,9nf,9lmCn,9ly,9llC3,9nz,9llC1,9o0,9ll",
      "C1,9o1,9llC1,9o2,9llC4,9od,9llC1617,1fpu,ljCr,1fq2,ljC246,1huh,1hveC2,1huj,1hve",
      "Cf,1hut,1hveC3n,1hyp,1hyfC1,1hyq,1hyfCf0,1idj,1idaC1,1idj,1idzC1j,1if6,1ih5C2,1if8,1igr",
      "C9,1iff,1igyC3,1ifk,1ih5C1g,1igy,1igyC2,1igy,1igoC1,1igy,1ih5C6r,1int,1inuC1,1int,1ink",
      "C2,1int,1inxC70,1iuw,1iunC1,1iux,1iunCot,1jjp,1jjkCe7d,1xr2,1xr2C1,1xr2,1xrdC1,1xr2,1xr3",
      "C1,1xrd,1xr3C1,1xr2,1xr4C1,1xr5,1xr3C1,1xr6,1xr3C1,1xr5,1xr4C2f4,206f,206fC1,206b,206f",
      "C1,206h,206f"]

end ArtifactCache.Idna
